import SignInJourney.Proofs.Audit.Milestones
import SignInJourney.Proofs.Service.Effect

/-!
Runs of the service: operations one after another from an empty store, each in circumstances of its
own. `Change` is what an operation can do to one session, `change_of_sound` that it can do nothing
else, and `Run.holds` carries a property of a session and its history through every run
(`Run.invariant` one that starts and timeouts have for nothing); `Run.holds_since` does so from any
moment of a run on.
-/

namespace SignInJourney

open Service Journey

namespace Store

/-- Every id has a session that goes by it, or none. -/
def Sound (store : Store) : Prop :=
  ∀ id, ∃ s?, store.get id = .ok s? ∧ ∀ s, s? = some s → s.id = id

theorem sound_empty : Sound .empty :=
  fun id => ⟨none, get_empty id, fun _ none => nomatch none⟩

theorem Sound.id_eq {store : Store} {id : SessionId} {s : Session} (sound : store.Sound)
    (found : store.get id = .ok (some s)) : s.id = id := by
  obtain ⟨s?, stored, goes⟩ := sound id
  rw [found, Except.ok.injEq] at stored
  exact goes s stored.symm

end Store

/-- A new session gets an id that the store does not have. -/
def Operation.Fresh (store : Store) : Operation → Prop
  | .createSession id _ => store.contains id = false
  | _ => True

/-- An operation as it is performed: in its circumstances and on its store. -/
structure Moment where
  env : Environment
  store : Store
  operation : Operation

namespace Moment

def reply (m : Moment) : Reply :=
  perform m.env m.store m.operation

/-- The queries that are sent about a session. -/
def queries (m : Moment) (id : SessionId) : List AttributeQuery :=
  (m.reply.queries.filter fun q => q.1 = id).map (·.2)

/-- The events that report a milestone of a session. -/
def reported (m : Moment) (id : SessionId) (milestone : Milestone) : List AuditEvent :=
  m.reply.events.filter fun e => decide (e.session = id) && e.names milestone

theorem reported_eq_nil {m : Moment} {id : SessionId} {milestone : Milestone}
    {reports : List Report} (events : m.reply.events = Service.events m.env reports)
    (silent : ∀ report ∈ reports, report.milestone? ≠ some milestone) :
    m.reported id milestone = [] := by
  rw [reported, events, List.filter_eq_nil_iff]
  intro event member
  obtain ⟨report, reports, rfl⟩ := List.mem_map.mp member
  rw [Bool.and_eq_true, AuditEvent.names_ofReport]
  exact fun about => silent report reports about.2

theorem reported_of_silent {m : Moment} {id : SessionId} {milestone : Milestone}
    (silent : m.reply.events = []) : m.reported id milestone = [] := by
  rw [reported, silent]
  rfl

theorem reported_of_occurrence {m : Moment} {id : SessionId} {envelope : Envelope}
    {what : Occurrence}
    (events : m.reply.events = Service.events m.env [.occurrence envelope what]) :
    m.reported id what.milestone =
      if envelope.sessionId = id then
        [.ofReport m.env.policy.serviceName m.env.now (.occurrence envelope what)]
      else [] := by
  have names : (AuditEvent.ofReport m.env.policy.serviceName m.env.now
      (.occurrence envelope what)).names what.milestone = true := AuditEvent.names_ofReport.mpr rfl
  have about : (AuditEvent.ofReport m.env.policy.serviceName m.env.now
      (.occurrence envelope what)).session = envelope.sessionId := rfl
  rw [reported, events, Service.events, List.map_singleton, List.filter_cons, names, about]
  by_cases same : envelope.sessionId = id <;> simp [same]

end Moment

/-- The moments of a run so far and the store that they leave. -/
inductive Run : List Moment → Store → Prop
  | start : Run [] .empty
  | step {history : List Moment} {m : Moment} (run : Run history m.store)
      (fresh : m.operation.Fresh m.store) :
      Run (history ++ [m]) m.reply.store

/-- What a moment does to the session under an id. -/
inductive Change (m : Moment) (id : SessionId) : Option Session → Option Session → Prop
  | idle {s? : Option Session} (unasked : m.queries id = []) : Change m id s? s?
  | opens {request : AuthnRequest} {opening : Start.Opening}
      (operation : m.operation = .createSession id request)
      (opens : Start.openSession m.env id request = .ok opening) (unasked : m.queries id = []) :
      Change m id none (some opening.session)
  | expires {s : Session} (late : s.isExpiredAt m.env.now = true) (live : s.state ≠ .timedOut)
      (unasked : m.queries id = []) : Change m id (some s) (some (s.withState .timedOut))
  | commits {s : Session} {d : Decision Answer} {next : State} (on : m.operation.session = id)
      (allowed : Access.Allowed m.env m.operation.needed s)
      (decides : Decides m.env s m.operation d) (commits : d.next = some next)
      (asked : m.queries id = d.query.toList) (result : m.reply.result = .ok d.answer) :
      Change m id (some s) (some (s.withState next))

/-- A moment decides about the session under an id and commits a state. -/
structure Moment.Commits (m : Moment) (id : SessionId) (s : Session) (d : Decision Answer)
    (next : State) : Prop where
  found : m.store.get id = .ok (some s)
  stored : m.reply.store.get id = .ok (some (s.withState next))
  on : m.operation.session = id
  allowed : Access.Allowed m.env m.operation.needed s
  decides : Decides m.env s m.operation d
  commits : d.next = some next
  result : m.reply.result = .ok d.answer

theorem Service.Decides.query_eq_none {env : Environment} {s : Session} {op : Operation}
    {d : Decision Answer} (h : Decides env s op d) (keeps : d.next = none) : d.query = none := by
  cases h with
  | providerAnswered _ outcome => cases outcome <;> cases keeps
  | countryAnswered _ outcome => cases outcome <;> cases keeps
  | matchingAnswered _ outcome => cases outcome <;> cases keeps
  | cycle3Submitted => cases keeps
  | _ => rfl

section Step

variable {m : Moment} {id : SessionId}

theorem Moment.queries_eq_nil (unasked : m.reply.queries = []) : m.queries id = [] := by
  rw [queries, unasked]
  rfl

theorem Moment.queries_of_asked {session : SessionId} {query : Option AttributeQuery}
    (asked : m.reply.queries = query.toList.map fun q => (session, q)) :
    m.queries id = if session = id then query.toList else [] := by
  rw [queries, asked]
  cases query with
  | none => simp
  | some q => by_cases same : session = id <;> simp [same]

theorem Change.id_eq {s? s?' : Option Session} (h : Change m id s? s?')
    (goes : ∀ s, s? = some s → s.id = id) : ∀ s, s?' = some s → s.id = id := by
  cases h with
  | idle => exact goes
  | opens _ opens =>
    rintro _ ⟨⟩
    obtain ⟨_, _, _, _, _, _, _, _, rfl⟩ := Start.openSession_eq_ok.mp opens
    rfl
  | @expires s =>
    rintro _ ⟨⟩
    exact goes s rfl
  | @commits s =>
    rintro _ ⟨⟩
    exact goes s rfl

/-- A moment on another session, or one that commits nothing. -/
theorem change_of_kept {s? : Option Session} (found : m.store.get id = .ok s?)
    (kept : m.reply.store.get id = m.store.get id) (unasked : m.queries id = []) :
    ∃ s?', m.reply.store.get id = .ok s?' ∧ Change m id s? s?' :=
  ⟨s?, kept.trans found, .idle unasked⟩

theorem change_of_noTrace {s? : Option Session} (found : m.store.get id = .ok s?)
    (noTrace : NoTrace m.store m.reply) :
    ∃ s?', m.reply.store.get id = .ok s?' ∧ Change m id s? s?' :=
  change_of_kept found (noTrace.kept id) (m.queries_eq_nil noTrace.unasked)

/-- A session is put under the id that it goes by, and only there. -/
theorem get_put_touch {store : Store} {s : Session} {session : SessionId} (goes : s.id = session) :
    ((store.touch session).put s).get id = if session = id then .ok (some s) else store.get id := by
  rw [Store.get_put, Store.get_touch, goes]

theorem change_of_opened {request : AuthnRequest} {opening : Start.Opening} {new : SessionId}
    {s? : Option Session} (found : m.store.get id = .ok s?)
    (operation : m.operation = .createSession new request) (fresh : m.store.contains new = false)
    (opens : Start.openSession m.env new request = .ok opening)
    (store : m.reply.store = m.store.put opening.session) (unasked : m.reply.queries = []) :
    ∃ s?', m.reply.store.get id = .ok s?' ∧ Change m id s? s?' := by
  have goes : opening.session.id = new := by
    obtain ⟨_, _, _, _, _, _, _, _, rfl⟩ := Start.openSession_eq_ok.mp opens
    rfl
  have unasked : m.queries id = [] := m.queries_eq_nil unasked
  by_cases same : new = id
  · -- The id is fresh, so there was no session to replace.
    subst same
    rw [Store.contains_eq_false_iff, found, Except.ok.injEq] at fresh
    subst fresh
    refine ⟨some opening.session, ?_, .opens operation opens unasked⟩
    rw [store, Store.get_put, if_pos goes]
  · refine change_of_kept found ?_ unasked
    rw [store, Store.get_put_of_ne (goes ▸ same)]

theorem change_of_decided {s : Session} {d : Decision Answer} {s? : Option Session}
    (found : m.store.get id = .ok s?) (goes : s.id = m.operation.session)
    (stored : m.store.get m.operation.session = .ok (some s))
    (allowed : Access.Allowed m.env m.operation.needed s) (decides : Decides m.env s m.operation d)
    (reply : m.reply = carryOut m.env (m.store.touch m.operation.session) s d) :
    ∃ s?', m.reply.store.get id = .ok s?' ∧ Change m id s? s?' := by
  have asked : m.queries id = if m.operation.session = id then d.query.toList else [] := by
    rw [m.queries_of_asked (congrArg Reply.queries reply), goes]
  cases commits : d.next with
  | none =>
    refine change_of_kept found ?_ ?_
    · rw [reply, get_carryOut_of_kept commits]
    · rw [asked, decides.query_eq_none commits]
      simp
  | some next =>
    have get : m.reply.store.get id =
        if m.operation.session = id then .ok (some (s.withState next)) else m.store.get id := by
      rw [reply, get_carryOut commits, goes]
    by_cases on : m.operation.session = id
    · rw [on, found, Except.ok.injEq] at stored
      subst stored
      rw [if_pos on] at get asked
      exact ⟨_, get, .commits on allowed decides commits asked (congrArg Reply.result reply)⟩
    · rw [if_neg on] at get asked
      exact change_of_kept found get asked

/-- What a moment of a run does to the session under an id. -/
theorem change_of_sound (sound : m.store.Sound) (fresh : m.operation.Fresh m.store)
    {s? : Option Session} (found : m.store.get id = .ok s?) :
    ∃ s?', m.reply.store.get id = .ok s?' ∧ Change m id s? s?' := by
  have effect : Effect m.env m.store m.operation m.reply := effect_of_perform _ _ _
  -- The cases of `Effect` fix the operation and the reply, so both have to be variables.
  generalize operation : m.operation = op at effect
  generalize reply : m.reply = r at effect
  cases effect with
  | opened opens =>
    rw [operation] at fresh
    exact reply ▸ change_of_opened found operation fresh opens (congrArg Reply.store reply)
      (congrArg Reply.queries reply)
  | existence =>
    refine reply ▸ change_of_noTrace found ?_
    rw [reply]
    exact ⟨fun _ => rfl, rfl, rfl⟩
  | @level session s =>
    refine reply ▸ change_of_noTrace found ?_
    rw [reply]
    exact noTrace_answer _ _ _
  | failed _ noTrace => exact reply ▸ change_of_noTrace found (reply ▸ noTrace)
  | @expired _ s stored late live =>
    have unasked : m.queries id = [] := m.queries_eq_nil (congrArg Reply.queries reply)
    have goes : s.id = op.session := sound.id_eq stored
    have get : ((m.store.touch op.session).put (s.withState .timedOut)).get id =
        if op.session = id then .ok (some (s.withState .timedOut)) else m.store.get id :=
      get_put_touch goes
    by_cases on : op.session = id
    · rw [on, found, Except.ok.injEq] at stored
      subst stored
      rw [if_pos on] at get
      exact ⟨_, get, .expires late live unasked⟩
    · rw [if_neg on] at get
      exact reply ▸ change_of_kept found (reply ▸ get) unasked
  | decided stored allowed decides =>
    subst operation
    exact reply ▸ change_of_decided found (sound.id_eq stored) stored allowed decides reply

/-- A moment of a run leaves a sound store. -/
theorem Moment.sound_reply (sound : m.store.Sound) (fresh : m.operation.Fresh m.store) :
    m.reply.store.Sound := by
  intro id
  obtain ⟨s?, found, goes⟩ := sound id
  obtain ⟨s?', stored, change⟩ := change_of_sound sound fresh found
  exact ⟨s?', stored, change.id_eq goes⟩

/-- An operation that needs something of its session is accepted by a decision, and the session is
left in the state that the decision commits. -/
theorem Moment.decides_of_accepted {answer : Answer} {c : Capability} (sound : m.store.Sound)
    (needed : m.operation.needed = some c) (accepted : m.reply.result = .ok answer) :
    ∃ s d, m.store.get m.operation.session = .ok (some s) ∧
      Access.Allowed m.env m.operation.needed s ∧ Decides m.env s m.operation d ∧
      d.answer = answer ∧ ∀ next, d.next = some next →
        m.reply.store.get m.operation.session = .ok (some (s.withState next)) := by
  obtain ⟨s, d, found, allowed, decides, answers, reply⟩ :=
    decided_of_accepted needed accepted
  refine ⟨s, d, found, allowed, decides, answers, fun next commits => ?_⟩
  rw [Moment.reply, reply, get_carryOut commits, if_pos (sound.id_eq found)]

end Step

namespace Run

variable {history : List Moment} {store : Store}

/-- Every store that a run leaves is sound. -/
theorem sound (run : Run history store) : store.Sound := by
  induction run with
  | start => exact Store.sound_empty
  | step run fresh ih => exact Moment.sound_reply ih fresh

/-- What holds of no session before anything has happened, and is kept by every change after a run,
holds of the session under an id after every run. -/
theorem holds_of_run {id : SessionId} {P : List Moment → Option Session → Prop} (start : P [] none)
    (step : ∀ {history m s? s?'}, Run history m.store → m.store.get id = .ok s? →
      m.reply.store.get id = .ok s?' → Change m id s? s?' → P history s? → P (history ++ [m]) s?')
    (run : Run history store) : ∃ s?, store.get id = .ok s? ∧ P history s? := by
  induction run with
  | start => exact ⟨none, Store.get_empty id, start⟩
  | step run fresh ih =>
    obtain ⟨s?, found, holds⟩ := ih
    obtain ⟨s?', stored, change⟩ := change_of_sound run.sound fresh found
    exact ⟨s?', stored, step run found stored change holds⟩

/-- The same, for what every change keeps whatever came before. -/
theorem holds {id : SessionId} {P : List Moment → Option Session → Prop} (start : P [] none)
    (step : ∀ {history m s? s?'}, m.store.get id = .ok s? → m.reply.store.get id = .ok s?' →
      Change m id s? s?' → P history s? → P (history ++ [m]) s?')
    (run : Run history store) : ∃ s?, store.get id = .ok s? ∧ P history s? :=
  run.holds_of_run start fun _ => step

/-- What a session has at the start and when it has timed out, and keeps as time goes by and with
whatever is committed, every session has. -/
theorem invariant {id : SessionId} {Q : List Moment → Session → Prop}
    (append : ∀ {history s}, Q history s → ∀ m, Q (history ++ [m]) s)
    (start : ∀ {history s providers}, s.state = .sessionStarted providers → Q history s)
    (timedOut : ∀ {history s}, s.state = .timedOut → Q history s)
    (commit : ∀ {history m s d next}, m.Commits id s d next → Q history s →
      Q (history ++ [m]) (s.withState next))
    (run : Run history store) {s : Session} (found : store.get id = .ok (some s)) :
    Q history s := by
  have holds : ∃ s?, store.get id = .ok s? ∧ ∀ s, s? = some s → Q history s := by
    refine run.holds (P := fun history s? => ∀ s, s? = some s → Q history s)
      (fun _ none => nomatch none) ?_
    rintro history m s? _ before after change holds s' rfl
    cases change with
    | idle => exact append (holds s' rfl) m
    | opens _ opens =>
      obtain ⟨_, starts⟩ := Start.state_of_openSession opens
      exact start starts
    | expires => exact timedOut rfl
    | @commits s d next on allowed decides commits _ result =>
      exact commit ⟨before, after, on, allowed, decides, commits, result⟩ (holds s rfl)
  obtain ⟨s?, stored, holds⟩ := holds
  cases Except.ok.inj (found.symm.trans stored)
  exact holds s rfl

/-- A moment of a history with one more moment at its end is that one, or one of those before. -/
theorem split_last {before after : List Moment} {m last : Moment}
    (whole : before ++ m :: after = history ++ [last]) :
    (after = [] ∧ before = history ∧ m = last) ∨
      ∃ rest, after = rest ++ [last] ∧ before ++ m :: rest = history := by
  rcases List.eq_nil_or_concat after with rfl | ⟨rest, final, rfl⟩
  · obtain ⟨same, here⟩ := List.append_inj' whole rfl
    exact .inl ⟨rfl, same, List.head_eq_of_cons_eq here⟩
  · rw [List.concat_eq_append, ← List.cons_append, ← List.append_assoc] at whole
    obtain ⟨same, here⟩ := List.append_inj' whole rfl
    refine .inr ⟨rest, ?_, same⟩
    rw [List.concat_eq_append, here]

/-- Each moment of a run comes after a run. -/
theorem at_moment {before after : List Moment} {m : Moment}
    (run : Run (before ++ m :: after) store) : Run before m.store ∧ m.operation.Fresh m.store := by
  generalize whole : before ++ m :: after = history at run
  induction run generalizing after with
  | start => simp at whole
  | step earlier fresh ih =>
    rcases split_last whole with ⟨rfl, rfl, rfl⟩ | ⟨rest, rfl, shorter⟩
    · exact ⟨earlier, fresh⟩
    · exact ih shorter

theorem through_moment {before after : List Moment} {m : Moment}
    (run : Run (before ++ m :: after) store) : Run (before ++ [m]) m.reply.store :=
  run.at_moment.1.step run.at_moment.2

/-- What holds of the session under an id as a moment leaves it, and is kept by every change, holds
of it from then on. -/
theorem holds_since {before after : List Moment} {m : Moment} {id : SessionId}
    {P : List Moment → Option Session → Prop}
    (start : ∀ {s?}, m.reply.store.get id = .ok s? → P [] s?)
    (step : ∀ {since m s? s?'}, m.store.get id = .ok s? → m.reply.store.get id = .ok s?' →
      Change m id s? s?' → P since s? → P (since ++ [m]) s?')
    (run : Run (before ++ m :: after) store) : ∃ s?, store.get id = .ok s? ∧ P after s? := by
  generalize whole : before ++ m :: after = history at run
  induction run generalizing after with
  | start => simp at whole
  | step earlier fresh ih =>
    rcases split_last whole with ⟨rfl, rfl, rfl⟩ | ⟨rest, rfl, shorter⟩
    · obtain ⟨s?, found, _⟩ := earlier.sound id
      obtain ⟨s?', stored, _⟩ := change_of_sound earlier.sound fresh found
      exact ⟨s?', stored, start stored⟩
    · obtain ⟨s?, found, holds⟩ := ih shorter
      obtain ⟨s?', stored, change⟩ := change_of_sound earlier.sound fresh found
      exact ⟨s?', stored, step found stored change holds⟩

end Run

/-! A journey with one transaction, one identity provider and one matching service, for statements
about operations and runs to be tried on. -/

namespace Sample

def transaction : Transaction :=
  { id := "https://transaction.test"
    levels := [.two]
    matchingService := some "https://matching.test"
    usingMatching := true
    cycle3Attribute := none
    accountAttributes := []
    eidasEnabled := false
    eidasCountries := [] }

def provider : IdentityProvider :=
  { id := "https://provider.test"
    levels := [.two]
    exactComparison := false
    enabled := true
    enabledForRegistration := true
    transactions := [] }

def matchingService : MatchingEndpoint :=
  { id := "https://matching.test"
    uri := "https://matching.test/match"
    accountCreationUri := "https://matching.test/create"
    onboarding := false }

def minute : Time.Span :=
  ⟨60, by decide, by decide⟩

/-- So many minutes into the year 1970. -/
def minutesIn (n : UInt8) : Time.Instant where
  seconds := 60 * n.toNat
  nanos := 0
  first_le := by unfold Time.firstSecond; omega
  le_last := by unfold Time.lastSecond; have := n.toNat_lt; omega
  nanos_lt := by decide
  leap := by simp

/-- The first second of 1970. -/
def env : Environment :=
  { directory :=
      .ofDocument
        { transactions := [transaction]
          providers := [provider]
          matchingServices := [matchingService]
          countries := [] }
    policy :=
      { sessionLength := minute
        waitPeriod := minute
        assertionLifetime := minute
        storeTimeouts := true
        serviceName := "policy" }
    now := minutesIn 0 }

def id : SessionId :=
  ⟨List.replicate 16 0, List.length_replicate⟩

def opening : Moment :=
  ⟨env, .empty, .createSession id
    { requestId := "request"
      issuer := transaction.id
      consumerUri := "https://transaction.test/answer"
      forceAuthentication := none
      relayState := none
      ip := "192.0.2.1" }⟩

def choosing : Moment :=
  ⟨env, opening.reply.store, .selectProvider id
    { provider := provider.id, ip := "192.0.2.1", registering := false, requested := .two }⟩

def authenticating : Moment :=
  ⟨env, choosing.reply.store, .providerResponse id
    { issuer := provider.id
      status := .success
      statusMessage := none
      level := some .two
      persistentId := some "user"
      matchingDataset := some "dataset"
      authnStatement := some "statement"
      ipSeenByProvider := none
      fraudEventId := none
      fraudIndicator := none
      notOnOrAfter := none
      ip := "192.0.2.1" }⟩

def matching : Moment :=
  ⟨env, authenticating.reply.store, .matchingResponse id
    { issuer := matchingService.id
      inResponseTo := "request"
      status := .matched
      assertion := some "match"
      level := some .two }⟩

theorem run_authenticating :
    Run [opening, choosing, authenticating] authenticating.reply.store := by
  have opened : Run [opening] opening.reply.store := .step (m := opening) .start rfl
  have chosen : Run [opening, choosing] choosing.reply.store :=
    .step (m := choosing) opened trivial
  exact .step (m := authenticating) chosen trivial

theorem run : Run [opening, choosing, authenticating, matching] matching.reply.store :=
  .step (m := matching) run_authenticating trivial

end Sample

end SignInJourney
