import SignInJourney.Proofs.Service.Deadline
import SignInJourney.Proofs.Service.Separation

/-!
The envelope of a session is the one that it was opened with, for as long as the session is stored,
and whatever is said about the session echoes it. A moment echoes the envelope that it finds
(`Moment.echoes_of_found`) and a run keeps it (`Run.envelope_since`), so every moment from the
opening on echoes the envelope of the opening.
-/

namespace SignInJourney

open Service Journey

/-- The envelope of the session that a moment opens for a request. -/
structure Envelope.OpenedBy (e : Envelope) (m : Moment) (id : SessionId) (request : AuthnRequest) :
    Prop where
  sessionId : e.sessionId = id
  requestId : e.requestId = request.requestId
  issuer : e.issuer = request.issuer
  consumerUri : e.consumerUri = request.consumerUri
  relayState : e.relayState = request.relayState
  forceAuthentication : e.forceAuthentication = request.forceAuthentication
  expiry : m.env.now.add? m.env.policy.sessionLength = some e.expiry

/-- What a moment says about the session under an id echoes the envelope. -/
structure Moment.Echoes (m : Moment) (id : SessionId) (e : Envelope) : Prop where
  answer : m.operation.session = id → ∀ a, m.reply.result = .ok a → a.Echoes e
  timeout : m.operation.session = id → ∀ r : Refusal, m.reply.result = .error (.refused r) →
    r.kind = "session_timeout" → r = .timedOut e.sessionId e.issuer e.expiry e.requestId
  events : ∀ event ∈ m.reply.events, event.session = id → event.Echoes e
  queries : ∀ q ∈ m.queries id, q.Echoes e

section Step

variable {m : Moment} {id : SessionId} {s : Session}

theorem Service.echoes_events {env : Environment} {reports : List Report} {e : Envelope}
    (h : ∀ report ∈ reports, report.Echoes e) : ∀ event ∈ events env reports, event.Echoes e := by
  intro event member
  obtain ⟨report, reported, rfl⟩ := List.mem_map.mp member
  exact AuditEvent.echoes_ofReport (h report reported)

/-- What an operation says about the session that it finds. -/
theorem Moment.echoes_of_effect (fresh : m.operation.Fresh m.store)
    (found : m.store.get m.operation.session = .ok (some s)) :
    (∀ a, m.reply.result = .ok a → a.Echoes s.envelope) ∧
      (∀ event ∈ m.reply.events, event.Echoes s.envelope) ∧
      ∀ q ∈ m.reply.queries, q.2.Echoes s.envelope := by
  have effect : Effect m.env m.store m.operation m.reply := effect_of_perform _ _ _
  generalize m.operation = op at effect found fresh
  generalize m.reply = reply at effect
  cases effect with
  | @opened id =>
    have missing : m.store.get id = .ok none := Store.contains_eq_false_iff.mp fresh
    cases found.symm.trans missing
  | existence =>
    refine ⟨?_, List.forall_mem_nil _, List.forall_mem_nil _⟩
    rintro _ ⟨⟩
    trivial
  | level =>
    refine ⟨?_, List.forall_mem_nil _, List.forall_mem_nil _⟩
    rintro _ ⟨⟩
    trivial
  | failed result noTrace =>
    rw [result, noTrace.unreported, noTrace.unasked]
    refine ⟨?_, List.forall_mem_nil _, List.forall_mem_nil _⟩
    rintro _ ⟨⟩
  | expired found' =>
    cases found.symm.trans found'
    refine ⟨?_, echoes_events Report.forall_occurrence, List.forall_mem_nil _⟩
    rintro _ ⟨⟩
  | decided found' _ decides =>
    cases found.symm.trans found'
    refine ⟨?_, echoes_events decides.echoes.reports, ?_⟩
    · rintro _ ⟨⟩
      exact decides.answer_echoes
    · intro q asked
      obtain ⟨query, member, rfl⟩ := List.mem_map.mp asked
      exact decides.echoes.query query (Option.mem_toList.mp member)

theorem Moment.echoes_of_found (sound : m.store.Sound) (fresh : m.operation.Fresh m.store)
    (found : m.store.get id = .ok (some s)) : m.Echoes id s.envelope := by
  have keeps : m.reply.KeepsTo m.operation.session m.store := keepsTo_of_sound sound _
  by_cases on : m.operation.session = id
  · rw [← on] at found ⊢
    obtain ⟨answer, events, queries⟩ := m.echoes_of_effect fresh found
    refine ⟨fun _ => answer, fun _ r refused timeout => ?_, fun event member _ =>
      events event member, fun q asked => ?_⟩
    · obtain ⟨s', found', rfl⟩ := found_of_timeout refused timeout
      cases found.symm.trans found'
      rfl
    · obtain ⟨pair, member, rfl⟩ := List.mem_map.mp asked
      exact queries pair (List.mem_filter.mp member).1
  · -- An operation on another session says nothing about this one.
    refine ⟨fun on' => absurd on' on, fun on' => absurd on' on, fun event member about => ?_,
      fun q asked => ?_⟩
    · exact absurd ((keeps.events event member).symm.trans about) on
    · obtain ⟨pair, member, rfl⟩ := List.mem_map.mp asked
      obtain ⟨sent, about⟩ := List.mem_filter.mp member
      exact absurd ((keeps.queries pair sent).symm.trans (of_decide_eq_true about)) on

/-- The moment that opens a session says no more than that it does, with the envelope it is opened
with. -/
theorem Moment.echoes_of_created {request : AuthnRequest}
    (creates : m.operation = .createSession id request)
    (created : m.reply.result = .ok (.session id)) :
    ∃ s, m.reply.store.get id = .ok (some s) ∧ s.envelope.OpenedBy m id request ∧
      m.Echoes id s.envelope := by
  cases opens : Start.openSession m.env id request with
  | error f =>
    rw [reply, creates] at created
    rw [perform, createSession_of_fails opens] at created
    cases created
  | ok opening =>
    have reply : m.reply =
        { result := .ok (.session id)
          store := m.store.put opening.session
          events := events m.env [opening.report]
          queries := [] } := by
      rw [Moment.reply, creates, perform, createSession_of_opens opens]
    have stored : m.reply.store.get opening.session.id = .ok (some opening.session) := by
      rw [reply]
      exact Store.get_put_self _ _
    obtain ⟨_, _, _, expiry, _, _, _, inRange, rfl⟩ := Start.openSession_eq_ok.mp opens
    refine ⟨_, stored, ⟨rfl, rfl, rfl, rfl, rfl, rfl, inRange⟩, ?_⟩
    constructor
    case answer =>
      rintro - a result
      rw [created] at result
      cases result
      exact rfl
    case timeout =>
      rintro - r refused
      rw [created] at refused
      cases refused
    case events =>
      rw [reply]
      intro event member _
      exact echoes_events Report.forall_occurrence event member
    case queries =>
      intro q asked
      rw [m.queries_eq_nil (congrArg Reply.queries reply)] at asked
      cases asked

theorem Change.keeps_envelope {s?' : Option Session} (change : Change m id (some s) s?') :
    ∃ s', s?' = some s' ∧ s'.envelope = s.envelope := by
  obtain ⟨s', rfl, forward⟩ := change.forward
  exact ⟨s', rfl, forward.envelope⟩

/-- A session that is stored is stored with its envelope for good. -/
theorem Run.envelope_since {before after : List Moment} {store : Store}
    (run : Run (before ++ m :: after) store) (stored : m.reply.store.get id = .ok (some s)) :
    ∃ s', store.get id = .ok (some s') ∧ s'.envelope = s.envelope := by
  have kept : ∃ s?, store.get id = .ok s? ∧ ∃ s', s? = some s' ∧ s'.envelope = s.envelope := by
    refine run.holds_since (P := fun _ s? => ∃ s', s? = some s' ∧ s'.envelope = s.envelope) ?_ ?_
    · intro s? left
      exact ⟨s, Except.ok.inj (left.symm.trans stored), rfl⟩
    · rintro _ _ _ s?' _ _ change ⟨before, rfl, same⟩
      obtain ⟨s', rfl, keeps⟩ := change.keeps_envelope
      exact ⟨s', rfl, keeps.trans same⟩
  obtain ⟨_, found, s', rfl, same⟩ := kept
  exact ⟨s', found, same⟩

end Step

/-- From the moment that opens a session on, the session is stored with the envelope of the opening,
which has the values of the request and lasts for the configured time, and every answer, every
timeout, every audit event and every attribute query about the session echoes that envelope. -/
theorem run_envelope_echoed {before after : List Moment} {m : Moment} {store : Store}
    (run : Run (before ++ m :: after) store) {id : SessionId} {request : AuthnRequest}
    (creates : m.operation = .createSession id request)
    (created : m.reply.result = .ok (.session id)) :
    ∃ e : Envelope, e.OpenedBy m id request ∧ ∀ m' ∈ m :: after,
      (∃ s, m'.reply.store.get id = .ok (some s) ∧ s.envelope = e) ∧ m'.Echoes id e := by
  obtain ⟨opened, stored, openedBy, echoes⟩ := Moment.echoes_of_created creates created
  refine ⟨opened.envelope, openedBy, fun m' member => ?_⟩
  rcases List.mem_cons.mp member with rfl | later
  · exact ⟨⟨opened, stored, rfl⟩, echoes⟩
  · obtain ⟨between, rest, rfl⟩ := List.append_of_mem later
    have whole : Run ((before ++ m :: between) ++ m' :: rest) store := by simpa using run
    have through : Run (before ++ m :: (between ++ [m'])) m'.reply.store := by
      simpa using whole.through_moment
    refine ⟨through.envelope_since stored, ?_⟩
    obtain ⟨earlier, fresh⟩ := whole.at_moment
    obtain ⟨s, found, same⟩ := earlier.envelope_since stored
    rw [← same]
    exact m'.echoes_of_found earlier.sound fresh found

/-- The query about the sample's user goes out for the request that opened the session. -/
theorem sample_envelope_echoed :
    ∃ e : Envelope, e.requestId = "request" ∧ e.issuer = Sample.transaction.id ∧
      Sample.authenticating.Echoes Sample.id e ∧ Sample.matching.Echoes Sample.id e := by
  have run : Run ([] ++ Sample.opening :: [Sample.choosing, Sample.authenticating, Sample.matching])
      Sample.matching.reply.store := Sample.run
  obtain ⟨e, opened, echoes⟩ := run_envelope_echoed run rfl rfl
  exact ⟨e, opened.requestId, opened.issuer, (echoes Sample.authenticating (by simp)).2,
    (echoes Sample.matching (by simp)).2⟩

end SignInJourney
