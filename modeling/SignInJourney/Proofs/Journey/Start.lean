import SignInJourney.Journey.ProviderSelection
import SignInJourney.Journey.Start
import SignInJourney.Proofs.Journey.Checks
import SignInJourney.Proofs.Journey.Conduct

/-!
The ways into a journey: opening a session (`openSession_eq_ok`), going back to the start
(`restart_eq_ok`), and picking an identity provider (`select_eq_ok`).
-/

namespace SignInJourney

variable {env : Environment}

/-- The start offers what the first level of the transaction allows. -/
theorem Environment.startState_eq_ok {transaction : String} {state : State} :
    env.startState transaction = .ok state ↔
      ∃ t, env.directory.transaction transaction = .ok t ∧
        state = .sessionStarted
          (t.levels.head?.elim [] (env.directory.enabledProviders transaction false)) := by
  simp only [startState, bind_eq_ok, Failure.ofDirectory_eq_ok]
  refine exists_congr fun t => and_congr_right fun _ => ?_
  cases t.levels.head? <;> simp [eq_comm]

namespace Journey

namespace Start

/-- The envelope of a session that is opened for a transaction. -/
def envelope (id : SessionId) (request : AuthnRequest) (t : Transaction) (expiry : Time.Instant) :
    Envelope :=
  { requestId := request.requestId
    issuer := request.issuer
    expiry := expiry
    consumerUri := request.consumerUri
    sessionId := id
    supportsEidas := t.eidasEnabled
    relayState := request.relayState
    forceAuthentication := request.forceAuthentication }

theorem openSession_eq_ok {id : SessionId} {request : AuthnRequest} {opening : Opening} :
    openSession env id request = .ok opening ↔
      ∃ t minimum required expiry, env.directory.transaction request.issuer = .ok t ∧
        t.levels.head? = some minimum ∧ t.levels.getLast? = some required ∧
        env.now.add? env.policy.sessionLength = some expiry ∧
        opening =
          { session :=
              { envelope := envelope id request t expiry
                state := .sessionStarted
                  (env.directory.enabledProviders request.issuer false minimum) }
            report := .occurrence (envelope id request t expiry)
              (.started request.ip minimum required) } := by
  simp only [openSession, bind_eq_ok, Failure.ofDirectory_eq_ok, envelope]
  constructor
  · rintro ⟨t, transaction, h⟩
    split at h
    · rename_i minimum required first last
      simp only [bind_eq_ok, Failure.inRange_eq_ok, Except.ok.injEq] at h
      obtain ⟨expiry, inRange, rfl⟩ := h
      exact ⟨t, minimum, required, expiry, transaction, first, last, inRange, rfl⟩
    · cases h
  · rintro ⟨t, minimum, required, expiry, transaction, first, last, inRange, rfl⟩
    refine ⟨t, transaction, ?_⟩
    simp only [first, last, bind_eq_ok, Failure.inRange_eq_ok]
    exact ⟨expiry, inRange, rfl⟩

/-- A new session stands at the start. -/
theorem state_of_openSession {id : SessionId} {request : AuthnRequest} {opening : Opening}
    (opens : openSession env id request = .ok opening) :
    ∃ providers, opening.session.state = .sessionStarted providers := by
  obtain ⟨_, _, _, _, _, _, _, _, rfl⟩ := openSession_eq_ok.mp opens
  exact ⟨_, rfl⟩

theorem restart_eq_ok {s : Session} {d : Decision Unit} :
    (restart env s).decision = .ok d ↔
      ∃ next, env.startState s.envelope.issuer = .ok next ∧
        d = .commit () next
          (if s.state.isEidas then [.occurrence s.envelope .movedToStart] else []) := by
  rw [restart, Conduct.decision_check, bind_eq_ok]
  refine exists_congr fun next => and_congr_right fun _ => ?_
  split <;> exact ok_eq_ok

end Start

namespace ProviderSelection

theorem select_eq_ok {s : Session} {choice : ProviderChoice} {d : Decision Unit} :
    (select env s choice).decision = .ok d ↔
      ∃ selected, selection env s choice = .ok selected ∧
        d = .commit () (.providerSelected selected)
          [.occurrence s.envelope
            (.providerSelected choice.provider selected.levels choice.ip)] := by
  rw [select, Conduct.decision_check, bind_eq_ok]
  refine exists_congr fun selected => and_congr_right fun _ => ?_
  exact ok_eq_ok

end ProviderSelection

end Journey

end SignInJourney
