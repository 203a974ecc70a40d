import SignInJourney.Proofs.Service.Run

/-!
Stray answers: those that come from another party than the matching service that was asked, or
answer another request. All of them are refused and leave no trace, but for one: that no account
could be created is believed whoever says it.
-/

namespace SignInJourney.Service

open Journey

variable {env : Environment} {store : Store} {id : SessionId} {s : Session}
  {p : Matching.Pending} {r : MatchingResponse}

/-- A session that waits for the matching service and is in time takes its answer. -/
theorem perform_matchingResponse (found : store.get id = .ok (some s))
    (waits : Matching.pending? s = some p) (inTime : s.isExpiredAt env.now = false) :
    perform env store (.matchingResponse id r) =
      settle env (store.touch id) s
        ((Matching.handle env p r).decision.map (.map fun _ => .done)) := by
  have supports : s.state.supports .waitingForMatchingServiceResponse = true := by
    rw [(Matching.pending?_eq_some.mp waits).2]
    rfl
  rw [perform, withSession_of_supports handles_matchingResponse.orderly found inTime supports]
  simp only [withPending, waits, silently, Conduct.decision_map]

/-- The state that a failed account creation leaves a session in. -/
def creationFailed (p : Matching.Pending) : State :=
  match p.family with
  | .domestic => .accountCreationFailed
  | .eidas => .eidasAccountCreationFailed p.identity.provider

theorem perform_isUnchecked (found : store.get id = .ok (some s))
    (waits : Matching.pending? s = some p) (inTime : s.isExpiredAt env.now = false)
    (unchecked : Matching.IsUnchecked p r) :
    perform env store (.matchingResponse id r) =
      { result := .ok .done
        store := (store.touch id).put (s.withState (creationFailed p))
        events := events env [.occurrence s.envelope .accountCreationFailed]
        queries := [] } := by
  have sameEnvelope := (Matching.pending?_eq_some.mp waits).1
  rw [perform_matchingResponse found waits inTime, Matching.handle_of_isUnchecked unchecked,
    sameEnvelope]
  rfl

/-- A stray answer to a session that waits for one is refused without a trace, unless it says that
no account could be created to a session that waits for one to be created; then the creation has
failed, and that is reported. -/
theorem stray_answer (found : store.get id = .ok (some s)) (waits : Matching.pending? s = some p)
    (inTime : s.isExpiredAt env.now = false)
    (stray : r.issuer ≠ p.identity.matchingService ∨ r.inResponseTo ≠ s.envelope.requestId) :
    (¬ Matching.IsUnchecked p r →
      (∃ refusal, (perform env store (.matchingResponse id r)).result = .error (.refused refusal) ∧
        refusal.kind = "state_processing_validation") ∧
      NoTrace store (perform env store (.matchingResponse id r))) ∧
    (Matching.IsUnchecked p r →
      perform env store (.matchingResponse id r) =
        { result := .ok .done
          store := (store.touch id).put (s.withState (creationFailed p))
          events := events env [.occurrence s.envelope .accountCreationFailed]
          queries := [] }) := by
  refine ⟨fun checked => ?_, perform_isUnchecked found waits inTime⟩
  have sameEnvelope := (Matching.pending?_eq_some.mp waits).1
  have notAnswers : ¬ Matching.Answers p r := by
    rintro ⟨issuer, inResponseTo⟩
    cases stray with
    | inl wrongIssuer => exact wrongIssuer issuer
    | inr wrongRequest => exact wrongRequest (sameEnvelope ▸ inResponseTo)
  have refused : ∃ cause,
      (Matching.handle env p r).decision = .error (.refused (.invalid cause)) :=
    Matching.handle_of_not_answers notAnswers checked
  obtain ⟨cause, refused⟩ := refused
  rw [perform_matchingResponse found waits inTime, refused]
  exact ⟨⟨_, rfl, rfl⟩, noTrace_answer _ _ _⟩

/-- A session that waits for an account to be created. -/
def awaitingAccount : Session :=
  { envelope :=
      { requestId := "request"
        issuer := Sample.transaction.id
        expiry := Sample.env.now
        consumerUri := "https://transaction.test/answer"
        sessionId := Sample.id
        supportsEidas := false
        relayState := none
        forceAuthentication := none }
    state := .matchRequested .domestic .accountCreation
      { identity :=
          { provider := Sample.provider.id
            level := .two
            matchingService := Sample.matchingService.id
            registering := false
            assertions := .domestic "dataset" "statement" "user" }
        sentAt := Sample.env.now
        cycle3Dataset := none } }

/-- An answer from elsewhere, to another request. -/
def elsewhere (status : MatchingStatus) : MatchingResponse :=
  { issuer := "https://elsewhere.test"
    inResponseTo := "another request"
    status := status
    assertion := none
    level := none }

theorem stray_answer_about_account :
    NoTrace (Store.empty.put awaitingAccount)
      (perform Sample.env (Store.empty.put awaitingAccount)
        (.matchingResponse Sample.id (elsewhere .accountCreated))) := by
  have found := Store.get_put_self .empty awaitingAccount
  refine ((stray_answer found rfl rfl (.inl ?_)).1 ?_).2
  · decide
  · rintro ⟨⟨⟩, _⟩

/-- Not every stray answer is refused. -/
theorem stray_failure_accepted :
    ¬ ∀ (env : Environment) (store : Store) (id : SessionId) (s : Session) (p : Matching.Pending)
      (r : MatchingResponse), store.get id = .ok (some s) → Matching.pending? s = some p →
      s.isExpiredAt env.now = false →
      (r.issuer ≠ p.identity.matchingService ∨ r.inResponseTo ≠ s.envelope.requestId) →
      (∃ refusal, (perform env store (.matchingResponse id r)).result = .error (.refused refusal) ∧
        refusal.kind = "state_processing_validation") ∧
      NoTrace store (perform env store (.matchingResponse id r)) := by
  intro claim
  have found := Store.get_put_self .empty awaitingAccount
  obtain ⟨⟨refusal, refused, _⟩, _⟩ := claim Sample.env _ _ _ _ (elsewhere .accountCreationFailed)
    found rfl rfl (.inl (by decide))
  have accepted : (perform Sample.env (Store.empty.put awaitingAccount)
      (.matchingResponse Sample.id (elsewhere .accountCreationFailed))).result = .ok .done := rfl
  cases accepted.symm.trans refused

end SignInJourney.Service
