import SignInJourney.Proofs.Service.Deadline
import SignInJourney.Proofs.Service.Query
import SignInJourney.Proofs.Service.Separation
import SignInJourney.Proofs.Service.Stray

/-!
Giving up on the matching service. Up to the end of the wait period a poll only says to wait
(`perform_poll_patient`); the first one after it stores that matching has failed
(`perform_poll_late`). The state is an end, and in time an end is never left, whatever is done and
whatever the clocks show (`Call.get_after`), so the session stays `GivenUp` on until its deadline
(`giving_up_is_final`).
-/

namespace SignInJourney

open Service Journey

/-! ### Ends are never left in time -/

theorem Store.Sound.put {store : Store} (sound : store.Sound) (s : Session) :
    (store.put s).Sound := by
  intro id
  rw [get_put]
  split
  · rename_i goes
    exact ⟨some s, rfl, fun _ same => Option.some.inj same ▸ goes⟩
  · exact sound id

theorem Store.Sound.touch {store : Store} (sound : store.Sound) (id : SessionId) :
    (store.touch id).Sound := by
  intro other
  rw [get_touch]
  exact sound other

/-- An operation leaves a session as it is that is at an end, if it is not on the session or is in
time. -/
theorem Moment.get_reply {m : Moment} {s : Session} (sound : m.store.Sound)
    (fresh : m.operation.Fresh m.store) (found : m.store.get s.id = .ok (some s))
    (ends : s.state.isTerminal = true)
    (inTime : m.operation.session = s.id → s.isExpiredAt m.env.now = false) :
    m.reply.store.get s.id = .ok (some s) := by
  by_cases on : m.operation.session = s.id
  · obtain ⟨s?', stored, change⟩ := change_of_sound sound fresh found
    obtain ⟨⟨envelope', state'⟩, rfl, forward⟩ := change.forward
    obtain ⟨envelope, state⟩ := s
    rcases forward.terminal ends with same | ⟨_, late⟩
    · cases same
      cases forward.envelope
      exact stored
    · rw [inTime on] at late
      cases late
  · have keeps : m.reply.KeepsTo m.operation.session m.store := keepsTo_of_sound sound _
    exact (keeps.others s.id (Ne.symm on)).trans found

namespace Call

/-- The store that calls leave that are made one after another. -/
def after (store : Store) (calls : List Call) : Store :=
  calls.foldl (fun store c => (c.moment store).reply.store) store

/-- A session at an end stays as it is as long as every call on it is in time. -/
theorem get_after {s : Session} {calls : List Call} {store : Store} (sound : store.Sound)
    (fresh : Fresh store calls) (found : store.get s.id = .ok (some s))
    (ends : s.state.isTerminal = true)
    (inTime : ∀ c ∈ calls, c.operation.session = s.id → s.isExpiredAt c.env.now = false) :
    (after store calls).get s.id = .ok (some s) := by
  induction calls generalizing store with
  | nil => exact found
  | cons c rest ih =>
    obtain ⟨now, later⟩ := fresh_cons.mp fresh
    have stays : (c.moment store).reply.store.get s.id = .ok (some s) :=
      Moment.get_reply sound now found ends (inTime c List.mem_cons_self)
    refine ih (Moment.sound_reply sound now) later stays fun c' member => ?_
    exact inTime c' (List.mem_cons_of_mem c member)

end Call

/-! ### Polls -/

namespace Service

variable {env : Environment} {store : Store} {id : SessionId} {s : Session} {p : Matching.Pending}
  {deadline : Time.Instant}

theorem perform_poll_patient (found : store.get id = .ok (some s))
    (waits : Matching.pending? s = some p) (inTime : s.isExpiredAt env.now = false)
    (due : p.request.sentAt.add? env.policy.waitPeriod = some deadline)
    (patient : ¬ deadline < env.now) :
    perform env store (.processingDetails id) =
      answer (store.touch id) (.ok (.processing (p.details .wait))) := by
  have polled : (Matching.processingDetails env p).decision = .ok (.reply (p.details .wait)) :=
    Matching.processingDetails_eq_ok.mpr ⟨deadline, due, (if_neg patient).symm⟩
  rw [perform_poll found waits inTime, polled]
  rfl

theorem perform_poll_late (found : store.get id = .ok (some s))
    (waits : Matching.pending? s = some p) (inTime : s.isExpiredAt env.now = false)
    (due : p.request.sentAt.add? env.policy.waitPeriod = some deadline)
    (late : deadline < env.now) :
    perform env store (.processingDetails id) =
      { result := .ok (.processing (p.details .showMatchingErrorPage))
        store := (store.touch id).put (s.withState (.matchingFailed p.identity.provider))
        events := []
        queries := [] } := by
  have polled : (Matching.processingDetails env p).decision =
      .ok (p.withoutService.map fun _ => p.details .showMatchingErrorPage) :=
    Matching.processingDetails_eq_ok.mpr ⟨deadline, due, (if_pos late).symm⟩
  rw [perform_poll found waits inTime, polled]
  rfl

end Service

/-! ### A session that has been given up -/

namespace Service

variable {env : Environment} {store : Store} {s : Session}

/-- An operation that needs what the state of its session does not offer is refused after a look at
the session. -/
theorem perform_of_lacking {op : Operation} {c : Capability}
    (found : store.get op.session = .ok (some s)) (inTime : s.isExpiredAt env.now = false)
    (live : s.state ≠ .timedOut) (needed : op.needed = some c)
    (lacks : s.state.supports c = false) :
    perform env store op =
      answer (store.touch op.session)
        (.error (.refused (.unsupported op.session c s.kind))) := by
  have timed : op.isTimed = true := Operation.isTimed_of_needed needed
  have refused : Access.allow op.session op.needed s =
      .error (.unsupported op.session c s.kind) := by
    unfold Access.allow
    rw [if_neg fun timedOut => live timedOut.1, needed]
    simp only [lacks]
    rfl
  obtain ⟨handler, performs, _⟩ := perform_of_isTimed env timed
  simp only [performs, withSession, Access.load_of_inTime found inTime, refused]
  rfl

end Service

/-- Matching has failed for a session, and all that an operation on it does is look: a poll is told
to show the matching error page, an error response is given, and whatever else is needed of the
session is refused, which is every answer and failure of the matching service, every look at the
cycle-3 question and answer to it, the response for the transaction, and every choice and restart.
-/
structure Session.GivenUp (s : Session) (env : Environment) (store : Store) : Prop where
  poll : perform env store (.processingDetails s.id) =
    answer (store.touch s.id)
      (.ok (.processing
        { session := s.id, step := .showMatchingErrorPage, transaction := s.envelope.issuer }))
  errorResponse : perform env store (.errorResponse s.id) =
    answer (store.touch s.id) (.ok (.response (.noAuthnContext s.envelope)))
  refuses : ∀ op c, op.session = s.id → op.needed = some c → c ≠ .responseProcessing →
    c ≠ .errorResponsePrepared → ∃ r, r.kind = "invalid_state" ∧
      perform env store op = answer (store.touch s.id) (.error (.refused r))

theorem givenUp_of_failed {env : Environment} {store : Store} {s : Session} {provider : String}
    (found : store.get s.id = .ok (some (s.withState (.matchingFailed provider))))
    (inTime : s.isExpiredAt env.now = false) : s.GivenUp env store := by
  refine ⟨?_, ?_, fun op c on needed notPoll notError => ?_⟩
  · rw [perform, withSession_of_supports handles_processingDetails.orderly found inTime rfl]
    rfl
  · rw [perform, withSession_of_supports (handles_errorResponse env).orderly found inTime rfl]
    rfl
  · have lacks : (s.withState (.matchingFailed provider)).state.supports c = false := by
      simp [State.supports, State.capabilities, notPoll, notError]
    rw [← on] at found ⊢
    exact ⟨_, rfl, perform_of_lacking found inTime (by simp) needed lacks⟩

/-- A poll of a session that waits for the matching service is told to wait, and changes nothing, up
to the end of the wait period, and after it to show the matching error page; then that matching has
failed is stored, with the provider of the identity. From then on the session stays given up
through every continuation whose operations on it are in time, whatever the clocks show. -/
theorem giving_up_is_final {env : Environment} {store : Store} {id : SessionId} {s : Session}
    {p : Matching.Pending} {deadline : Time.Instant} (found : store.get id = .ok (some s))
    (waits : Matching.pending? s = some p) (inTime : s.isExpiredAt env.now = false)
    (due : p.request.sentAt.add? env.policy.waitPeriod = some deadline) :
    (¬ deadline < env.now →
      perform env store (.processingDetails id) =
        answer (store.touch id) (.ok (.processing (p.details .wait)))) ∧
    (deadline < env.now →
      perform env store (.processingDetails id) =
        { result := .ok (.processing (p.details .showMatchingErrorPage))
          store := (store.touch id).put (s.withState (.matchingFailed p.identity.provider))
          events := []
          queries := [] } ∧
      (store.Sound → ∀ calls,
        Call.Fresh (perform env store (.processingDetails id)).store calls →
        (∀ c ∈ calls, c.operation.session = s.id → s.isExpiredAt c.env.now = false) →
        ∀ env', s.isExpiredAt env'.now = false →
          s.GivenUp env'
            (Call.after (perform env store (.processingDetails id)).store calls))) := by
  refine ⟨perform_poll_patient found waits inTime due, fun late => ?_⟩
  have polled := perform_poll_late found waits inTime due late
  refine ⟨polled, fun sound calls fresh inTime env' inTime' => ?_⟩
  rw [polled] at fresh ⊢
  let failed : Session := s.withState (.matchingFailed p.identity.provider)
  have stored : ((store.touch id).put failed).get failed.id = .ok (some failed) :=
    Store.get_put_self _ failed
  have stays := Call.get_after ((sound.touch id).put failed) fresh stored rfl inTime
  exact givenUp_of_failed stays inTime'

namespace Sample

/-- A session that waits for an account to be created, and has its deadline three minutes in. -/
def waiting : Session :=
  { awaitingAccount with envelope := { awaitingAccount.envelope with expiry := minutesIn 3 } }

/-- Two minutes in, when the wait period of a minute is over. -/
def overdue : Environment :=
  { env with now := minutesIn 2 }

/-- The clock is back at the start when an answer arrives. -/
def overtaken : Call :=
  ⟨env, .matchingResponse id (elsewhere .accountCreated)⟩

end Sample

/-- Neither the answer nor the clock undoes what the late poll did. -/
theorem sample_giving_up_is_final :
    Sample.waiting.GivenUp Sample.env
      (Call.after (perform Sample.overdue (Store.empty.put Sample.waiting)
        (.processingDetails Sample.id)).store [Sample.overtaken]) := by
  have due : Sample.env.now.add? Sample.overdue.policy.waitPeriod = some (Sample.minutesIn 1) := rfl
  have late : Sample.minutesIn 1 < Sample.overdue.now := by decide
  have inTime : Sample.waiting.isExpiredAt Sample.overdue.now = false := rfl
  obtain ⟨_, final⟩ :=
    giving_up_is_final (Store.get_put_self .empty Sample.waiting) rfl inTime due
  refine (final late).2 (Store.sound_empty.put _) [Sample.overtaken] ?_ ?_ Sample.env rfl
  · exact Call.fresh_cons.mpr ⟨trivial, Call.fresh_nil⟩
  · intro c member _
    cases List.mem_singleton.mp member
    rfl

end SignInJourney
