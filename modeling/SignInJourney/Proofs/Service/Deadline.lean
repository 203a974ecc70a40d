import SignInJourney.Proofs.Service.Echo
import SignInJourney.Proofs.Service.Forward
import SignInJourney.Proofs.Service.Refusals

/-!
The deadline of a session is final. Past it every operation that heeds it turns the session away
(`perform_of_late`), a session that is stored as timed out stays so and has nothing but an error
response to give (`perform_of_timedOut`), and up to the deadline nobody is turned away for it
(`perform_of_inTime`). Over a run a passed deadline is reported once at most.
-/

namespace SignInJourney

open Service Journey

namespace Service

variable {env : Environment} {store : Store} {op : Operation} {s : Session}

/-- A session past its deadline is turned away; nothing but a timeout is stored or reported. -/
theorem perform_of_late (timed : op.isTimed = true) (found : store.get op.session = .ok (some s))
    (late : s.isExpiredAt env.now = true) (live : s.state ≠ .timedOut) :
    perform env store op =
      { result := .error (.refused (Refusal.timeoutOf s))
        store := (Access.expire env (store.touch op.session) s).store
        events := events env (Access.expire env (store.touch op.session) s).reports
        queries := [] } := by
  obtain ⟨handler, performs, _⟩ := perform_of_isTimed env timed
  simp only [performs, withSession, Access.load_of_late found late live, Access.expire_result]

theorem needed_eq_errorResponsePrepared (h : op.needed = some .errorResponsePrepared) :
    op = .errorResponse op.session := by
  cases op <;> first
    | rfl
    | cases h

/-- A timed-out session is turned away whatever the clock shows, but for an error response. -/
theorem perform_of_timedOut (timed : op.isTimed = true)
    (found : store.get op.session = .ok (some s)) (timedOut : s.state = .timedOut)
    (other : op ≠ .errorResponse op.session) :
    perform env store op =
      answer (store.touch op.session) (.error (.refused (Refusal.timeoutOf s))) := by
  obtain ⟨handler, performs, _⟩ := perform_of_isTimed env timed
  have refused : Access.allow op.session op.needed s = .error (Refusal.timeoutOf s) :=
    Access.allow_of_timedOut timedOut fun needed => other (needed_eq_errorResponsePrepared needed)
  simp only [performs, withSession, Access.load_of_timedOut found timedOut, refused]
  rfl

theorem perform_errorResponse_of_timedOut {id : SessionId} (found : store.get id = .ok (some s))
    (timedOut : s.state = .timedOut) :
    perform env store (.errorResponse id) =
      answer (store.touch id) (.ok (.response (.noAuthnContext s.envelope))) := by
  have allowed : Access.Allowed env (some .errorResponsePrepared) s := by
    refine ⟨.inr timedOut, fun _ => rfl, ?_⟩
    rintro _ ⟨⟩
    rw [timedOut]
    rfl
  rw [perform, withSession_of_allowed (handles_errorResponse env).orderly found allowed]
  rfl

theorem withSession_of_inTime {id : SessionId} {needed : Option Capability}
    {handler : Session → Conduct Answer} {serves : Bool} {c : Capability}
    (handles : Handles env s serves c (handler s)) (found : store.get id = .ok (some s))
    (inTime : s.isExpiredAt env.now = false) (live : s.state ≠ .timedOut) {r : Refusal}
    (refused : (withSession env store id needed handler).result = .error (.refused r)) :
    r.kind ≠ "session_timeout" := by
  simp only [withSession, Access.load_of_inTime found inTime] at refused
  cases allowed : Access.allow id needed s with
  | ok s' =>
    obtain ⟨rfl, _, _⟩ := Access.allow_eq_ok.mp allowed
    simp only [allowed, execute_result] at refused
    rcases handles.refused refused with ofContent | rfl
    · exact ofContent.inTime
    · simp [Refusal.kind]
  | error refusal =>
    obtain ⟨c, rfl⟩ := Access.unsupported_of_allow live allowed
    simp only [allowed] at refused
    cases refused
    simp [Refusal.kind]

/-- Opening a session and the free looks at one turn nobody away for a deadline. -/
theorem perform_of_untimed (untimed : op.isTimed = false) {r : Refusal}
    (refused : (perform env store op).result = .error (.refused r)) :
    r.kind ≠ "session_timeout" := by
  cases op with
  | createSession id request =>
    rw [perform] at refused
    cases opens : Start.openSession env id request with
    | ok opening =>
      rw [createSession_of_opens opens] at refused
      cases refused
    | error f =>
      rw [createSession_of_fails opens] at refused
      cases refused
      exact (Start.explained_openSession.content r opens).inTime
  | sessionExists => cases refused
  | levelOfAssurance id =>
    simp only [perform, levelOfAssurance] at refused
    cases peeked : Access.peek store id with
    | ok s =>
      rw [peeked] at refused
      cases refused
    | error unfound =>
      rw [peeked] at refused
      cases refused
      exact Access.inTime_of_peek peeked
  | _ => cases untimed

/-- Nobody is turned away for the deadline of a session that is in time. -/
theorem perform_of_inTime (found : store.get op.session = .ok (some s))
    (inTime : s.isExpiredAt env.now = false) (live : s.state ≠ .timedOut) {r : Refusal}
    (refused : (perform env store op).result = .error (.refused r)) :
    r.kind ≠ "session_timeout" := by
  cases timed : op.isTimed with
  | true =>
    obtain ⟨handler, performs, handles⟩ := perform_of_isTimed env timed
    rw [performs] at refused
    exact withSession_of_inTime (handles s) found inTime live refused
  | false => exact perform_of_untimed timed refused

/-- Whoever is turned away for a deadline is told the one of the session, as it is stored. -/
theorem found_of_timeout {r : Refusal}
    (refused : (perform env store op).result = .error (.refused r))
    (timeout : r.kind = "session_timeout") :
    ∃ s, store.get op.session = .ok (some s) ∧ r = Refusal.timeoutOf s := by
  cases timed : op.isTimed with
  | false => exact absurd timeout (perform_of_untimed timed refused)
  | true =>
    cases peeked : Access.peek store op.session with
    | error unfound =>
      obtain ⟨handler, performs, _⟩ := perform_of_isTimed env timed
      simp only [performs, withSession, Access.load, peeked] at refused
      cases refused
      exact absurd timeout (Access.inTime_of_peek peeked)
    | ok s =>
      rw [Access.peek_eq_ok] at peeked
      refine ⟨s, peeked, ?_⟩
      by_cases timedOut : s.state = .timedOut
      · by_cases errorResponse : op = .errorResponse op.session
        · rw [errorResponse, perform_errorResponse_of_timedOut peeked timedOut] at refused
          cases refused
        · rw [perform_of_timedOut timed peeked timedOut errorResponse] at refused
          cases refused
          rfl
      · cases late : s.isExpiredAt env.now with
        | true =>
          rw [perform_of_late timed peeked late timedOut] at refused
          cases refused
          rfl
        | false => exact absurd timeout (perform_of_inTime peeked late timedOut refused)

end Service

/-! What is reported: a passed deadline by nobody but the look that finds it, and by that once. -/

/-- No report says that a deadline has passed. -/
def Decision.Timely {α : Type} (d : Decision α) : Prop :=
  ∀ report ∈ d.reports, report.milestone? ≠ some .sessionTimeout

theorem Service.Decides.timely {env : Environment} {s : Session} {op : Operation}
    {d : Decision Answer} (decides : Decides env s op d) : d.Timely := by
  intro report member timeout
  have listed := decides.milestone_mem report member _ timeout
  cases op <;> simp [Operation.milestones] at listed

/-- What is reported about a session that is found past its deadline. -/
def Moment.timeouts (m : Moment) (id : SessionId) : List AuditEvent :=
  m.reply.events.filter fun e => decide (e.session = id) && e.isTimeout

theorem Session.progress_le (s? : Option Session) : Session.progress s? ≤ 6 := by
  cases s? with
  | none => exact Nat.zero_le _
  | some s => exact s.state.rank_le

section Step

variable {m : Moment} {id : SessionId}

/-- A timeout is reported once, as it is stored. -/
theorem Moment.length_timeouts_le (sound : m.store.Sound) {s? s?' : Option Session}
    (found : m.store.get id = .ok s?) (stored : m.reply.store.get id = .ok s?') :
    m.timeouts id = [] ∨
      (m.timeouts id).length = 1 ∧ Session.progress s? < 6 ∧ Session.progress s?' = 6 := by
  have effect : Effect m.env m.store m.operation m.reply := effect_of_perform _ _ _
  generalize operation : m.operation = op at effect
  generalize reply : m.reply = r at effect
  cases effect with
  | opened opens =>
    refine .inl (Moment.reported_eq_nil (congrArg Reply.events reply) ?_)
    intro report member
    obtain ⟨_, _, _, _, _, _, _, _, rfl⟩ := Start.openSession_eq_ok.mp opens
    cases List.mem_singleton.mp member
    simp [Report.milestone?, Occurrence.milestone]
  | existence => exact .inl (Moment.reported_of_silent (congrArg Reply.events reply))
  | level => exact .inl (Moment.reported_of_silent (congrArg Reply.events reply))
  | failed _ noTrace =>
    exact .inl (Moment.reported_of_silent (reply ▸ noTrace.unreported))
  | decided _ _ decides =>
    exact .inl (Moment.reported_eq_nil (congrArg Reply.events reply) decides.timely)
  | @expired _ s here late live =>
    have goes : s.id = op.session := sound.id_eq here
    have timeouts : m.timeouts id = if s.id = id then _ else [] :=
      Moment.reported_of_occurrence (congrArg Reply.events reply)
    by_cases on : s.id = id
    · rw [if_pos on] at timeouts
      refine .inr ⟨congrArg List.length timeouts, ?_, ?_⟩
      · rw [← goes, on, found, Except.ok.injEq] at here
        have notLast : s.state.rank ≠ 6 := fun last => live (State.rank_eq_six_iff.mp last)
        have last := s.state.rank_le
        rw [here]
        show s.state.rank < 6
        omega
      · have put : ((m.store.touch op.session).put (s.withState .timedOut)).get id =
            .ok (some (s.withState .timedOut)) := by
          rw [Store.get_put, if_pos (show (s.withState .timedOut).id = id from on)]
        rw [reply, put, Except.ok.injEq] at stored
        rw [← stored]
        rfl
    · rw [if_neg on] at timeouts
      exact .inl timeouts

/-- How often it has been reported that a session was found past its deadline: at most once, and
never before it is stored as timed out. -/
theorem length_timeouts_step {history : List Moment} {s? s?' : Option Session}
    (sound : m.store.Sound) (found : m.store.get id = .ok s?)
    (stored : m.reply.store.get id = .ok s?') (change : Change m id s? s?')
    (earlier : (history.flatMap (·.timeouts id)).length ≤
      if Session.progress s? = 6 then 1 else 0) :
    ((history ++ [m]).flatMap (·.timeouts id)).length ≤
      if Session.progress s?' = 6 then 1 else 0 := by
  have last := Session.progress_le s?
  have last' := Session.progress_le s?'
  have once := length_once_step 6 change
    ((m.length_timeouts_le sound found stored).imp_right fun ⟨once, live, ended⟩ =>
      ⟨once, live, Nat.le_of_eq ended.symm⟩)
    (Nat.le_trans earlier (by split <;> split <;> omega))
  exact Nat.le_trans once (by split <;> split <;> omega)

end Step

/-- How an operation turns a session away that is past its deadline. -/
structure TurnsAway (env : Environment) (store : Store) (s : Session) (reply : Reply) : Prop where
  result : reply.result = .error (.refused
    (.timedOut s.id s.envelope.issuer s.envelope.expiry s.envelope.requestId))
  unasked : reply.queries = []
  stored : env.policy.storeTimeouts = true →
    reply.store.get s.id = .ok (some { envelope := s.envelope, state := .timedOut }) ∧
    (∀ id, id ≠ s.id → reply.store.get id = store.get id) ∧
    ∃ event, reply.events = [event] ∧ event.session = s.id ∧
      event.milestoneName? = some "SESSION_TIMEOUT"
  kept : env.policy.storeTimeouts = false → NoTrace store reply

theorem Service.turnsAway_of_late {env : Environment} {store : Store} {op : Operation} {s : Session}
    (timed : op.isTimed = true) (found : store.get op.session = .ok (some s))
    (late : s.isExpiredAt env.now = true) (live : s.state ≠ .timedOut) :
    TurnsAway env store s (perform env store op) := by
  rw [perform_of_late timed found late live]
  refine ⟨rfl, rfl, fun storing => ?_, fun dropping => ?_⟩
  · simp only [Access.expire, storing, if_true]
    refine ⟨Store.get_put_self _ _, fun id other => ?_, _, rfl, rfl, ?_⟩
    · have elsewhere : (s.withState .timedOut).id ≠ id := Ne.symm other
      rw [Store.get_put_of_ne elsewhere, Store.get_touch]
    · exact AuditEvent.milestoneName?_ofReport _
  · simp only [Access.expire, dropping, Bool.false_eq_true, if_false]
    exact ⟨store.get_touch _, rfl, rfl⟩

/-- What the deadline means for an operation on a session. -/
structure Session.DeadlineFinal (env : Environment) (store : Store) (s : Session) (op : Operation) :
    Prop where
  late : op.isTimed = true → s.envelope.expiry < env.now → s.state ≠ .timedOut →
    TurnsAway env store s (perform env store op)
  ended : op.isTimed = true → s.state = .timedOut → NoTrace store (perform env store op) ∧
    (op ≠ .errorResponse s.id → (perform env store op).result = .error (.refused
      (.timedOut s.id s.envelope.issuer s.envelope.expiry s.envelope.requestId))) ∧
    (op = .errorResponse s.id → ∃ r, (perform env store op).result = .ok (.response r) ∧
      r.status = .noAuthenticationContext)
  inTime : ¬ s.envelope.expiry < env.now → s.state ≠ .timedOut →
    ∀ r, (perform env store op).result = .error (.refused r) → r.kind ≠ "session_timeout"

theorem Service.deadlineFinal_of_found {env : Environment} {store : Store} {op : Operation}
    {s : Session} (found : store.get op.session = .ok (some s)) (goes : s.id = op.session) :
    s.DeadlineFinal env store op := by
  refine ⟨fun timed late live => ?_, fun timed ended => ?_, fun inTime live r refused => ?_⟩
  · exact turnsAway_of_late timed found (decide_eq_true late) live
  · rw [goes]
    by_cases errorResponse : op = .errorResponse op.session
    · rw [errorResponse, perform_errorResponse_of_timedOut found ended]
      exact ⟨noTrace_answer _ _ _, fun other => absurd rfl other, fun _ => ⟨_, rfl, rfl⟩⟩
    · rw [perform_of_timedOut timed found ended errorResponse]
      refine ⟨noTrace_answer _ _ _, fun _ => ?_, fun same => absurd same errorResponse⟩
      rw [← goes]
      rfl
  · exact perform_of_inTime found (decide_eq_false inTime) live refused

/-- The deadline of a session is final, and over a whole run it is reported once at most that a
session was found past it. -/
theorem run_deadline_final {history : List Moment} {store : Store} (run : Run history store)
    (id : SessionId) :
    (∀ s, store.get id = .ok (some s) → s.id = id ∧
      ∀ env op, op.session = id → s.DeadlineFinal env store op) ∧
    (history.flatMap (·.timeouts id)).length ≤ 1 := by
  constructor
  · intro s found
    have goes := run.sound.id_eq found
    refine ⟨goes, fun env op on => ?_⟩
    subst on
    exact deadlineFinal_of_found found goes
  · have within : ∃ s?, store.get id = .ok s? ∧ (history.flatMap (·.timeouts id)).length ≤
        if Session.progress s? = 6 then 1 else 0 :=
      run.holds_of_run (P := fun history s? => (history.flatMap (·.timeouts id)).length ≤
        if Session.progress s? = 6 then 1 else 0) (Nat.zero_le _)
        fun earlier => length_timeouts_step earlier.sound
    obtain ⟨s?, _, within⟩ := within
    exact Nat.le_trans within (by split <;> decide)

namespace Sample

/-- An hour later, long past the deadline of every session. -/
def late : Environment :=
  { env with now := minutesIn 60 }

end Sample

/-- An hour later the sample's session is turned away, and its response is not given any more. -/
theorem sample_deadline_final :
    (∃ s, Sample.matching.reply.store.get Sample.id = .ok (some s) ∧
      TurnsAway Sample.late Sample.matching.reply.store s
        (perform Sample.late Sample.matching.reply.store (.preparedResponse Sample.id))) ∧
    ([Sample.opening, Sample.choosing, Sample.authenticating, Sample.matching].flatMap
      (·.timeouts Sample.id)).length ≤ 1 := by
  obtain ⟨final, once⟩ := run_deadline_final Sample.run Sample.id
  have turnsAway := ((final _ rfl).2 Sample.late (.preparedResponse Sample.id) rfl).late rfl
  exact ⟨⟨_, rfl, turnsAway (by decide) (by decide)⟩, once⟩

end SignInJourney
