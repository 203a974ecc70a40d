import SignInJourney.Proofs.Service.Echo
import SignInJourney.Proofs.Service.Run

/-!
Sessions do not notice each other. An operation depends on nothing in the store but its own session
(`alike_of_get_eq`), and stores, reports and asks about no other (`keepsTo_of_sound`). So a session
goes through the same in a run as in that run without the operations on other sessions
(`experience_filter`).
-/

namespace SignInJourney

open Service Journey

/-! ### What an operation depends on -/

/-- Two replies that are the same as far as the session under an id is concerned. -/
structure Reply.Alike (id : SessionId) (a b : Reply) : Prop where
  result : a.result = b.result
  events : a.events = b.events
  queries : a.queries = b.queries
  stored : a.store.get id = b.store.get id

section Alike

variable {env : Environment} {a b : Store} {id : SessionId}

theorem Store.get_put_congr (same : a.get id = b.get id) (s : Session) :
    (a.put s).get id = (b.put s).get id := by
  rw [get_put, get_put, same]

theorem Store.get_touch_congr (same : a.get id = b.get id) :
    (a.touch id).get id = (b.touch id).get id := by
  rw [get_touch, get_touch, same]

theorem Access.peek_congr (same : a.get id = b.get id) : peek a id = peek b id := by
  unfold peek
  rw [same]

theorem Access.load_congr (same : a.get id = b.get id) (needed : Option Capability) :
    (load env a id needed).result = (load env b id needed).result ∧
      (load env a id needed).reports = (load env b id needed).reports ∧
      (load env a id needed).store.get id = (load env b id needed).store.get id := by
  have touched := Store.get_touch_congr same
  unfold load
  rw [peek_congr same]
  split
  · exact ⟨rfl, rfl, touched⟩
  · split
    · unfold expire
      split
      · exact ⟨rfl, rfl, Store.get_put_congr touched _⟩
      · exact ⟨rfl, rfl, touched⟩
    · exact ⟨rfl, rfl, touched⟩

theorem Store.get_foldl_put_congr (same : a.get id = b.get id) (sessions : List Session) :
    (sessions.foldl Store.put a).get id = (sessions.foldl Store.put b).get id := by
  induction sessions generalizing a b with
  | nil => exact same
  | cons s rest ih => exact ih (Store.get_put_congr same s)

namespace Service

theorem alike_execute (same : a.get id = b.get id) (c : Conduct Answer) :
    (execute env a c).Alike id (execute env b c) := by
  simp only [execute, foldl_act]
  exact ⟨rfl, rfl, rfl, Store.get_foldl_put_congr same _⟩

theorem alike_withSession (same : a.get id = b.get id) (needed : Option Capability)
    (handler : Session → Conduct Answer) :
    (withSession env a id needed handler).Alike id (withSession env b id needed handler) := by
  obtain ⟨result, reports, stored⟩ := @Access.load_congr env a b id same needed
  unfold withSession
  simp only [result, reports]
  split
  · exact alike_execute stored _
  · exact ⟨rfl, rfl, rfl, stored⟩

theorem contains_congr (same : a.get id = b.get id) : a.contains id = b.contains id := by
  have iff : a.contains id = false ↔ b.contains id = false := by
    rw [Store.contains_eq_false_iff, Store.contains_eq_false_iff, same]
  cases there : a.contains id <;> simp_all

theorem alike_of_get_eq {op : Operation} (same : a.get op.session = b.get op.session) :
    (perform env a op).Alike op.session (perform env b op) := by
  cases op with
  | createSession id request => exact alike_execute same _
  | sessionExists id =>
    have there : a.contains id = b.contains id := contains_congr same
    refine ⟨?_, rfl, rfl, same⟩
    simp only [perform, answer, there]
  | levelOfAssurance id =>
    have peeked : Access.peek a id = Access.peek b id := Access.peek_congr same
    refine ⟨?_, rfl, rfl, Store.get_touch_congr same⟩
    simp only [perform, levelOfAssurance, answer, peeked]
  | _ => exact alike_withSession same _ _

end Service

end Alike

/-! ### What an operation concerns -/

/-- A reply says nothing about any session but one, and leaves every other as it was. -/
structure Reply.KeepsTo (id : SessionId) (store : Store) (reply : Reply) : Prop where
  events : ∀ e ∈ reply.events, e.session = id
  queries : ∀ q ∈ reply.queries, q.1 = id
  others : ∀ other ≠ id, reply.store.get other = store.get other

namespace Service

theorem session_of_events {env : Environment} {reports : List Report} {id : SessionId}
    (about : ∀ report ∈ reports, report.session = id) :
    ∀ e ∈ events env reports, e.session = id := by
  intro e member
  obtain ⟨report, reported, rfl⟩ := List.mem_map.mp member
  exact about report reported

theorem keepsTo_of_noTrace {id : SessionId} {store : Store} {reply : Reply}
    (noTrace : NoTrace store reply) : reply.KeepsTo id store where
  events := by simp [noTrace.unreported]
  queries := by simp [noTrace.unasked]
  others other _ := noTrace.kept other

/-- An operation stores, reports and asks about nothing but its own session. -/
theorem keepsTo_of_sound {env : Environment} {store : Store} (sound : store.Sound)
    (op : Operation) : (perform env store op).KeepsTo op.session store := by
  have effect := effect_of_perform env store op
  generalize perform env store op = reply at effect
  cases effect with
  | opened opens =>
    obtain ⟨_, _, _, _, _, _, _, _, rfl⟩ := Start.openSession_eq_ok.mp opens
    refine ⟨session_of_events (List.forall_mem_singleton.mpr rfl), by simp, fun other apart => ?_⟩
    exact Store.get_put_of_ne (Ne.symm apart)
  | existence => exact keepsTo_of_noTrace ⟨fun _ => rfl, rfl, rfl⟩
  | level => exact keepsTo_of_noTrace (noTrace_answer _ _ _)
  | failed _ noTrace => exact keepsTo_of_noTrace noTrace
  | @expired _ s found =>
    have goes : s.id = op.session := sound.id_eq found
    refine ⟨session_of_events (List.forall_mem_singleton.mpr goes), by simp,
      fun other apart => ?_⟩
    rw [get_put_touch (show (s.withState .timedOut).id = op.session from goes),
      if_neg (Ne.symm apart)]
  | @decided _ s d found _ decides =>
    have goes : s.id = op.session := sound.id_eq found
    refine ⟨session_of_events fun report member => ?_, ?_, fun other apart => ?_⟩
    · exact (decides.echoes.reports report member).session.trans goes
    · intro q asked
      obtain ⟨_, _, rfl⟩ := List.mem_map.mp asked
      exact goes
    · cases commits : d.next with
      | none => exact get_carryOut_of_kept commits other
      | some next => rw [get_carryOut commits, if_neg (goes ▸ Ne.symm apart)]

end Service

/-! ### Runs -/

/-- An operation and its circumstances. -/
structure Call where
  env : Environment
  operation : Operation

namespace Call

def isOn (id : SessionId) (c : Call) : Bool :=
  c.operation.session = id

def moment (c : Call) (store : Store) : Moment :=
  ⟨c.env, store, c.operation⟩

/-- The moments of calls that are made one after another. -/
def play (store : Store) : List Call → List Moment
  | [] => []
  | c :: rest => c.moment store :: play (c.moment store).reply.store rest

/-- Every new session gets an id that the store does not have by then. -/
def Fresh (store : Store) (calls : List Call) : Prop :=
  ∀ m ∈ play store calls, m.operation.Fresh m.store

end Call

/-- What a session goes through in a run. -/
structure Experience where
  /-- What comes of each operation on it, and how it is stored then. -/
  operations : List (Except Failure Answer × Except RecordError (Option Session))
  /-- What is reported about it. -/
  events : List AuditEvent
  /-- What is asked about it. -/
  queries : List AttributeQuery

namespace Experience

/-- What the session under an id goes through in some moments. -/
def of (id : SessionId) (moments : List Moment) : Experience where
  operations := (moments.filter (·.operation.session = id)).map fun m =>
    (m.reply.result, m.reply.store.get id)
  events := moments.flatMap fun m => m.reply.events.filter (·.session = id)
  queries := moments.flatMap (·.queries id)

variable {id : SessionId} {m : Moment} {moments : List Moment}

theorem of_cons_own (on : m.operation.session = id) :
    of id (m :: moments) =
      { operations := (m.reply.result, m.reply.store.get id) :: (of id moments).operations
        events := m.reply.events.filter (·.session = id) ++ (of id moments).events
        queries := m.queries id ++ (of id moments).queries } := by
  simp [of, on]

theorem of_cons_other (keeps : m.reply.KeepsTo m.operation.session m.store)
    (other : m.operation.session ≠ id) : of id (m :: moments) = of id moments := by
  have unreported : m.reply.events.filter (·.session = id) = [] := by
    rw [List.filter_eq_nil_iff]
    intro e member about
    exact other ((keeps.events e member).symm.trans (of_decide_eq_true about))
  have unasked : m.queries id = [] := by
    rw [Moment.queries, List.map_eq_nil_iff, List.filter_eq_nil_iff]
    intro q member about
    exact other ((keeps.queries q member).symm.trans (of_decide_eq_true about))
  simp [of, other, unreported, unasked]

end Experience

namespace Call

variable {id : SessionId} {a b store : Store} {calls : List Call}

theorem fresh_nil : Fresh store [] :=
  List.forall_mem_nil _

theorem fresh_cons {c : Call} :
    Fresh store (c :: calls) ↔
      c.operation.Fresh store ∧ Fresh (c.moment store).reply.store calls :=
  List.forall_mem_cons

theorem fresh_congr {op : Operation} (same : a.get op.session = b.get op.session) :
    op.Fresh a ↔ op.Fresh b := by
  cases op with
  | createSession id request =>
    have there : a.contains id = b.contains id := contains_congr same
    simp only [Operation.Fresh, there]
  | _ => exact Iff.rfl

/-- A session goes through the same without the calls on other sessions, in any store where it is
stored alike. -/
theorem experience_filter (sound : a.Sound) (fresh : Fresh a calls) (same : a.get id = b.get id) :
    Fresh b (calls.filter (isOn id)) ∧
      Experience.of id (play b (calls.filter (isOn id))) = Experience.of id (play a calls) := by
  -- The stores drift apart in the other sessions only: `same` holds after every call.
  induction calls generalizing a b with
  | nil => exact ⟨fresh_nil, rfl⟩
  | cons c rest ih =>
    obtain ⟨now, later⟩ := fresh_cons.mp fresh
    have sound' : (c.moment a).reply.store.Sound := Moment.sound_reply sound now
    by_cases on : c.operation.session = id
    · subst on
      have alike : (c.moment a).reply.Alike c.operation.session (c.moment b).reply :=
        alike_of_get_eq same
      obtain ⟨freshRest, others⟩ := ih sound' later alike.stored
      have onA : (c.moment a).operation.session = c.operation.session := rfl
      have onB : (c.moment b).operation.session = c.operation.session := rfl
      rw [List.filter_cons_of_pos (by simp [isOn]), fresh_cons]
      refine ⟨⟨(fresh_congr same).mp now, freshRest⟩, ?_⟩
      rw [play, play, Experience.of_cons_own onA, Experience.of_cons_own onB]
      simp only [Moment.queries, alike.result, alike.events, alike.queries, alike.stored, others]
    · have keeps : (c.moment a).reply.KeepsTo c.operation.session a := keepsTo_of_sound sound _
      rw [List.filter_cons_of_neg (by simp [isOn, on]), play, Experience.of_cons_other keeps on]
      exact ih sound' later ((keeps.others id (Ne.symm on)).trans same)

/-- The ids of a run are fresh if those of each session's own run are. -/
theorem fresh_of_filter (sound : store.Sound)
    (each : ∀ id, Fresh store (calls.filter (isOn id))) : Fresh store calls := by
  -- A session's own run from the next store is its own run from this one, without the first call
  -- if that is its own.
  induction calls generalizing store with
  | nil => exact fresh_nil
  | cons c rest ih =>
    have own := each c.operation.session
    rw [List.filter_cons_of_pos (by simp [isOn]), fresh_cons] at own
    refine fresh_cons.mpr ⟨own.1, ih (Moment.sound_reply sound own.1) fun id => ?_⟩
    by_cases on : c.operation.session = id
    · exact on ▸ own.2
    · have keeps : (c.moment store).reply.KeepsTo c.operation.session store :=
        keepsTo_of_sound sound _
      have other := each id
      rw [List.filter_cons_of_neg (by simp [isOn, on])] at other
      have again := (experience_filter sound other (keeps.others id (Ne.symm on)).symm).1
      simpa only [List.filter_filter, Bool.and_self] using again

/-- Two calls on distinct sessions are in no session's way. -/
theorem filter_swap {c d : Call} (apart : c.operation.session ≠ d.operation.session)
    (before after : List Call) (id : SessionId) :
    (before ++ d :: c :: after).filter (isOn id) =
      (before ++ c :: d :: after).filter (isOn id) := by
  simp only [List.filter_append]
  congr 1
  by_cases on : c.operation.session = id
  · have other : d.operation.session ≠ id := fun same => apart (on.trans same.symm)
    simp [isOn, on, other]
  · simp [List.filter_cons, isOn, on]

/-- No session notices the calls on others. -/
structure Separate (calls : List Call) : Prop where
  /-- Without the calls on other sessions a run is still one, and a session goes through the
  same. -/
  alone : ∀ id, Fresh .empty (calls.filter (isOn id)) ∧
    Experience.of id (play .empty (calls.filter (isOn id))) = Experience.of id (play .empty calls)
  /-- So it is if two calls in a row are swapped that are on distinct sessions. -/
  swapped : ∀ before c d after, calls = before ++ c :: d :: after →
    c.operation.session ≠ d.operation.session →
    Fresh .empty (before ++ d :: c :: after) ∧
    ∀ id, Experience.of id (play .empty (before ++ d :: c :: after)) =
      Experience.of id (play .empty calls)

end Call

/-- In every run from an empty store, each session goes through what it would go through alone. -/
theorem sessions_separate {calls : List Call} (fresh : Call.Fresh .empty calls) :
    Call.Separate calls := by
  have alone {calls : List Call} (fresh : Call.Fresh .empty calls) (id : SessionId) :=
    Call.experience_filter Store.sound_empty fresh (@rfl _ (Store.empty.get id))
  refine ⟨alone fresh, ?_⟩
  rintro before c d after rfl apart
  -- Both orders are the same to each session alone.
  have same := Call.filter_swap apart before after
  have freshSwapped : Call.Fresh .empty (before ++ d :: c :: after) :=
    Call.fresh_of_filter Store.sound_empty fun id => same id ▸ (alone fresh id).1
  refine ⟨freshSwapped, fun id => ?_⟩
  rw [← (alone freshSwapped id).2, same id]
  exact (alone fresh id).2

namespace Sample

def otherId : SessionId :=
  ⟨List.replicate 16 1, List.length_replicate⟩

/-- Two sessions are opened; one goes on, and the other is looked for past its deadline. -/
def twoSessions : List Call :=
  [⟨env, opening.operation⟩,
    ⟨env, .createSession otherId
      { requestId := "other request"
        issuer := transaction.id
        consumerUri := "https://transaction.test/answer"
        forceAuthentication := none
        relayState := none
        ip := "192.0.2.2" }⟩,
    ⟨env, choosing.operation⟩, ⟨env, authenticating.operation⟩,
    ⟨{ env with now := minutesIn 60 }, .processingDetails otherId⟩]

theorem sessions_separate_twoSessions :
    Call.Fresh .empty twoSessions ∧ Call.Separate twoSessions := by
  have fresh : Call.Fresh .empty twoSessions := by
    simp only [twoSessions, Call.fresh_cons]
    exact ⟨rfl, rfl, trivial, trivial, trivial, Call.fresh_nil⟩
  exact ⟨fresh, sessions_separate fresh⟩

end Sample

end SignInJourney
