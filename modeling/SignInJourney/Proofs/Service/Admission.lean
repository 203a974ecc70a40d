import SignInJourney.Proofs.Service.GivingUp

/-!
What the table of capabilities lets in. The table and the looks that handlers take at a session on
their own agree for every operation but the answers of providers and countries
(`Session.serves_of_supports`). So no other operation gets past the table and is then turned away
for the state of its session (`invalidState_iff_lacking`).
-/

namespace SignInJourney

open Service Journey

/-- Refused, under a kind that front ends know. -/
def Reply.RefusedAs (reply : Reply) (kind : String) : Prop :=
  ∃ r : Refusal, reply.result = .error (.refused r) ∧ r.kind = kind

/-! ### The table -/

namespace Session

variable (s : Session)

theorem supports_waiting :
    s.state.supports .waitingForMatchingServiceResponse = (Matching.pending? s).isSome := by
  rcases s with ⟨envelope, state⟩
  cases state <;> rfl

theorem supports_awaiting :
    s.state.supports .awaitingCycle3Data = (Cycle3.asked? s).isSome := by
  rcases s with ⟨envelope, state⟩
  cases state <;> rfl

theorem supports_processing :
    s.state.supports .responseProcessing =
      ((Matching.pending? s).isSome || (Answer.nextStep? s.state).isSome) := by
  rcases s with ⟨envelope, state⟩
  cases state <;> rfl

theorem supports_prepared :
    s.state.supports .responsePrepared = (Answer.response? s.envelope s.state).isSome := by
  rcases s with ⟨envelope, state⟩
  cases state <;> rfl

variable {s}

/-- The handler finds what it looks for in every session that the table lets in. -/
theorem serves_of_supports {op : Operation} {c : Capability} (needed : op.needed = some c)
    (apart : op.isPartyAnswer = false) (supports : s.state.supports c = true) :
    s.serves op = true := by
  cases op with
  | createSession | sessionExists | signInDetails | requestFromHub | levelOfAssurance =>
    cases needed
  | providerResponse | countryResponse => cases apart
  | selectProvider | selectCountry | errorResponse | restart => rfl
  | matchingResponse | matchingFailure =>
    cases needed
    rwa [supports_waiting] at supports
  | cycle3Question | submitCycle3 | cancelCycle3 =>
    cases needed
    rwa [supports_awaiting] at supports
  | processingDetails =>
    cases needed
    rwa [supports_processing] at supports
  | preparedResponse =>
    cases needed
    rwa [supports_prepared] at supports

end Session

/-! ### Operations -/

namespace Service

variable {env : Environment} {store : Store} {op : Operation} {s : Session} {c : Capability}

/-- A session that serves is not turned away for its state by the handler that it is let in to. -/
theorem not_invalidState_of_serves (found : store.get op.session = .ok (some s))
    (inTime : s.isExpiredAt env.now = false) (needed : op.needed = some c)
    (supports : s.state.supports c = true) (serves : s.serves op = true) :
    ¬ (perform env store op).RefusedAs "invalid_state" := by
  have timed : op.isTimed = true := Operation.isTimed_of_needed needed
  obtain ⟨handler, performs, handles⟩ := perform_of_isTimed env timed
  rintro ⟨r, refused, invalid⟩
  have allowed := Access.allowed_of_supports inTime supports
  rw [performs, needed, withSession, Access.load_of_allowed found allowed] at refused
  simp only [execute_result] at refused
  exact (((handles s).sound serves).explained.content r refused).fits invalid

/-- A session in time is turned away for its state where the table does not let it in, or where it
does not serve. The answer of a provider may find the user with no provider at all, at the start of
the journey. -/
theorem invalidState_iff (found : store.get op.session = .ok (some s))
    (inTime : s.isExpiredAt env.now = false) (live : s.state ≠ .timedOut)
    (needed : op.needed = some c) :
    (perform env store op).RefusedAs "invalid_state" ↔
      ¬ (s.state.supports c = true ∧ s.serves op = true) := by
  constructor
  · rintro refused ⟨supports, serves⟩
    exact not_invalidState_of_serves found inTime needed supports serves refused
  intro unserved
  cases supports : s.state.supports c with
  | false =>
    rw [perform_of_lacking found inTime live needed supports]
    exact ⟨_, rfl, rfl⟩
  | true =>
    have serves : s.serves op = false := by
      rw [← Bool.not_eq_true]
      exact fun serves => unserved ⟨supports, serves⟩
    have timed : op.isTimed = true := Operation.isTimed_of_needed needed
    obtain ⟨handler, performs, handles⟩ := perform_of_isTimed env timed
    refine ⟨.unsupported s.id op.handling s.kind, ?_, rfl⟩
    rw [performs, needed, withSession_of_supports (handles s).orderly found inTime supports,
      (handles s).unfit serves]
    rfl

/-- An operation on a session in time, other than the answer of a provider or country, is refused
for the state of the session exactly when the state lacks the capability that the operation needs:
then that is all it comes to, and every session that is loaded for it serves. -/
theorem invalidState_iff_lacking (found : store.get op.session = .ok (some s))
    (inTime : s.isExpiredAt env.now = false) (live : s.state ≠ .timedOut)
    (needed : op.needed = some c) (apart : op.isPartyAnswer = false) :
    ((perform env store op).RefusedAs "invalid_state" ↔ s.state.supports c = false) ∧
    (s.state.supports c = false →
      perform env store op =
        answer (store.touch op.session)
          (.error (.refused (.unsupported op.session c s.kind)))) ∧
    ∀ loaded, (Access.load env store op.session op.needed).result = .ok loaded →
      loaded.serves op = true := by
  refine ⟨?_, perform_of_lacking found inTime live needed, fun loaded load => ?_⟩
  · have serves := Session.serves_of_supports (s := s) needed apart
    rw [invalidState_iff found inTime live needed, ← Bool.not_eq_true]
    exact not_congr ⟨And.left, fun supports => ⟨supports, serves supports⟩⟩
  · have result := Access.load_spec env store op.session op.needed
    generalize Access.load env store op.session op.needed = access at load result
    cases result with
    | refused | expired => cases load
    | allowed _ allowed =>
      cases load
      exact Session.serves_of_supports needed apart (allowed.supports c needed)

end Service

/-- A session that waits for an account to be created takes the failure of the matching service and
cannot start again. -/
theorem sample_invalidState_iff_lacking :
    (perform Sample.env (Store.empty.put Sample.waiting) (.restart Sample.id)).RefusedAs
      "invalid_state" ∧
    ¬ (perform Sample.env (Store.empty.put Sample.waiting) (.matchingFailure Sample.id)).RefusedAs
      "invalid_state" := by
  have live : Sample.waiting.state ≠ .timedOut := nofun
  constructor
  · have found : (Store.empty.put Sample.waiting).get (Operation.restart Sample.id).session =
        .ok (some Sample.waiting) := Store.get_put_self .empty Sample.waiting
    exact (invalidState_iff_lacking found rfl live rfl rfl).1.mpr rfl
  · have found : (Store.empty.put Sample.waiting).get
        (Operation.matchingFailure Sample.id).session = .ok (some Sample.waiting) :=
      Store.get_put_self .empty Sample.waiting
    intro refused
    cases (invalidState_iff_lacking found rfl live rfl rfl).1.mp refused

end SignInJourney
