import SignInJourney.Proofs.Service.Run
import SignInJourney.Proofs.Session.Rank

/-!
A journey only moves forward. Whatever a handler commits is a step of the journey
(`Decides.forward`), so once the user has been authenticated no operation takes a session back, and
over a run the matching service is asked each of its questions once at most and in order.
-/

namespace SignInJourney

open Service Journey

theorem Environment.rank_startState {env : Environment} {transaction : String} {state : State}
    (start : env.startState transaction = .ok state) : state.rank = 0 := by
  obtain ⟨t, _, rfl⟩ := Environment.startState_eq_ok.mp start
  rfl

/-- A query is a step to the request that it is sent for. -/
theorem State.Forward.of_query {before : State} {stage : Stage} {query : AttributeQuery}
    {family : Family} {request : MatchRequest} (asks : query.stage = stage)
    (new : before.rank < stage.rank) :
    before.Forward (some query.stage) (.matchRequested family stage request) := by
  rw [asks]
  exact .asking new

namespace Journey

theorem ProviderResponse.Outcome.forward {env : Environment} {envelope : Envelope}
    {sel : ProviderSelection} {r : ProviderResponse} {d : Decision ResponseAction} {next : State}
    (outcome : Outcome env envelope sel r d) (commits : d.next = some next) :
    (State.providerSelected sel).Forward (d.query.map (·.stage)) next := by
  cases outcome with
  | matching _ _ _ _ _ _ asks =>
    cases commits
    exact .of_query (Environment.stage_query asks) Nat.zero_lt_one
  | nonMatching => cases commits; exact .ending (Nat.succ_pos 4) rfl
  | noContextSigningIn _ _ _ _ start =>
    cases commits
    exact .choosing rfl (Environment.rank_startState start)
  | _ => cases commits; exact .choosing rfl rfl

theorem Country.Outcome.forward {env : Environment} {envelope : Envelope}
    {sel : CountrySelection} {r : CountryResponse} {d : Decision ResponseAction} {next : State}
    (outcome : Outcome env envelope sel r d) (commits : d.next = some next) :
    (State.countrySelected sel).Forward (d.query.map (·.stage)) next := by
  cases outcome with
  | matching _ _ _ _ _ _ _ asks =>
    cases commits
    exact .of_query (Environment.stage_query asks) Nat.zero_lt_one
  | nonMatching => cases commits; exact .ending (Nat.succ_pos 4) rfl
  | authnFailed => cases commits; exact .choosing rfl rfl

theorem Matching.Pending.fail_forward (p : Matching.Pending) :
    (State.matchRequested p.family p.stage p.request).Forward none
      (.matchingFailed p.identity.provider) :=
  .ending (Nat.lt_succ_of_le p.stage.rank_le) rfl

theorem Matching.Outcome.forward {env : Environment} {p : Matching.Pending} {r : MatchingResponse}
    {d : Decision Unit} {next : State} (outcome : Outcome env p r d)
    (commits : d.next = some next) :
    (State.matchRequested p.family p.stage p.request).Forward (d.query.map (·.stage)) next := by
  have onTheWay : p.stage.rank < 5 := Nat.lt_succ_of_le p.stage.rank_le
  cases outcome with
  | asksCycle3 _ stage =>
    cases commits
    rw [stage]
    exact .awaiting
  | asksAccount _ stage _ _ _ _ asks =>
    cases commits
    have new : p.stage.rank < Stage.accountCreation.rank := by
      cases same : p.stage with
      | accountCreation => exact absurd same stage
      | _ => decide
    have asked := Environment.stage_query asks
    exact .of_query asked new
  | accountCreationFailed =>
    cases commits
    cases p.family <;> exact .ending onTheWay rfl
  | _ => cases commits; exact .ending onTheWay rfl

end Journey

/-- Whatever a handler commits is a step of the journey. -/
theorem Service.Decides.forward {env : Environment} {s : Session} {op : Operation}
    {d : Decision Answer} {next : State} (decides : Decides env s op d)
    (supports : ∀ c, op.needed = some c → s.state.supports c = true)
    (commits : d.next = some next) : s.state.Forward (d.query.map (·.stage)) next := by
  have unsettled : ∀ c, op.needed = some c → c.isChoice = true → s.state.rank = 0 :=
    fun c needed choice => State.rank_eq_zero_of_supports choice (supports c needed)
  cases decides with
  | providerSelected => cases commits; exact .choosing (unsettled _ rfl rfl) rfl
  | countrySelected => cases commits; exact .choosing (unsettled _ rfl rfl) rfl
  | restarted start =>
    cases commits
    exact .choosing (unsettled _ rfl rfl) (Environment.rank_startState start)
  | providerAnswered stands outcome => rw [stands]; exact outcome.forward commits
  | countryAnswered stands outcome => rw [stands]; exact outcome.forward commits
  | matchingAnswered waits outcome =>
    rw [(Matching.pending?_eq_some.mp waits).2]
    exact outcome.forward commits
  | matchingFailed waits =>
    cases commits
    rw [(Matching.pending?_eq_some.mp waits).2]
    exact Matching.Pending.fail_forward _
  | givenUp waits =>
    cases commits
    rw [(Matching.pending?_eq_some.mp waits).2]
    exact Matching.Pending.fail_forward _
  | cycle3Submitted asks _ queries =>
    cases commits
    rw [(Cycle3.asked?_eq_some.mp asks).2]
    have asked := Environment.stage_query queries
    exact .of_query asked (Nat.lt_add_one 2)
  | cycle3Cancelled asks =>
    cases commits
    rw [(Cycle3.asked?_eq_some.mp asks).2]
    refine .ending ?_ rfl
    show 2 < 5
    decide
  | _ => cases commits

/-- What an operation may make of a session. -/
structure Session.OnlyForward (now : Time.Instant) (s s' : Session) : Prop where
  envelope : s'.envelope = s.envelope
  forward : 1 ≤ s.state.rank → s'.state = s.state ∨ s.state.rank < s'.state.rank
  terminal : s.state.isTerminal = true →
    s'.state = s.state ∨ s'.state = .timedOut ∧ s.isExpiredAt now = true
  timedOut : s.state = .timedOut → s'.state = .timedOut

namespace Session.OnlyForward

variable {now : Time.Instant} {s : Session}

theorem refl : s.OnlyForward now s :=
  ⟨rfl, fun _ => .inl rfl, fun _ => .inl rfl, fun same => same⟩

theorem expire (late : s.isExpiredAt now = true) (live : s.state ≠ .timedOut) :
    s.OnlyForward now (s.withState .timedOut) := by
  refine ⟨rfl, fun _ => .inr ?_, fun _ => .inr ⟨rfl, late⟩, fun _ => rfl⟩
  have last := s.state.rank_le
  have notLast : s.state.rank ≠ 6 := fun h => live (State.rank_eq_six_iff.mp h)
  show s.state.rank < 6
  omega

theorem step {asked : Option Stage} {next : State} (forward : s.state.Forward asked next) :
    s.OnlyForward now (s.withState next) := by
  have onTheWay := forward.rank_lt_five
  refine ⟨rfl, fun authenticated => .inr (forward.rank_lt authenticated), fun ends => ?_,
    fun timedOut => ?_⟩
  · rw [State.isTerminal_iff] at ends
    omega
  · rw [timedOut] at onTheWay
    exact absurd onTheWay (by decide)

end Session.OnlyForward

section Step

variable {m : Moment} {id : SessionId}

theorem Change.forward {s : Session} {s?' : Option Session} (h : Change m id (some s) s?') :
    ∃ s', s?' = some s' ∧ s.OnlyForward m.env.now s' := by
  cases h with
  | idle => exact ⟨s, rfl, .refl⟩
  | expires late live => exact ⟨_, rfl, .expire late live⟩
  | commits _ allowed decides commits =>
    exact ⟨_, rfl, .step (decides.forward allowed.supports commits)⟩

/-- How far along its journey a session is, if there is one. -/
def Session.progress (s? : Option Session) : Nat :=
  s?.elim 0 fun s => s.state.rank

theorem Change.progress_mono {s? s?' : Option Session} (h : Change m id s? s?') :
    Session.progress s? ≤ Session.progress s?' := by
  cases h with
  | idle => exact Nat.le_refl _
  | opens => exact Nat.zero_le _
  | expires => exact State.rank_le _
  | commits _ allowed decides commits =>
    exact (decides.forward allowed.supports commits).rank_mono

/-- A session gets to the stage of the question that is sent about it. -/
theorem Change.progress_of_asked {s? s?' : Option Session} (h : Change m id s? s?')
    {q : AttributeQuery} (member : q ∈ m.queries id) : Session.progress s?' = q.stage.rank := by
  cases h with
  | idle unasked => rw [unasked] at member; cases member
  | opens _ _ unasked => rw [unasked] at member; cases member
  | expires _ _ unasked => rw [unasked] at member; cases member
  | @commits s d next _ allowed decides commits asked =>
    rw [asked, Option.mem_toList] at member
    have forward := decides.forward allowed.supports commits
    rw [member, Option.map_some] at forward
    generalize s.state = before at forward
    cases forward with
    | asking => rfl

/-- What is asked in a moment comes after what can have been asked by then. -/
theorem Change.askedBy {s? s?' : Option Session} (h : Change m id s? s?') :
    (Stage.askedBy (Session.progress s?) ++ (m.queries id).map (·.stage)).Sublist
      (Stage.askedBy (Session.progress s?')) := by
  have gained := Stage.askedBy_mono h.progress_mono
  cases h with
  | @commits s d next _ allowed decides commits asked =>
    have stages : (m.queries id).map (·.stage) = (d.query.map (·.stage)).toList := by
      rw [asked]
      cases d.query <;> rfl
    rw [stages]
    exact (decides.forward allowed.supports commits).askedBy
  | idle unasked => simpa only [unasked, List.map_nil, List.append_nil] using gained
  | opens _ _ unasked => simpa only [unasked, List.map_nil, List.append_nil] using gained
  | expires _ _ unasked => simpa only [unasked, List.map_nil, List.append_nil] using gained

/-- What happens only as a session gets past a point of its journey happens once at most. -/
theorem length_once_step {α : Type} {happens : Moment → List α} {history : List Moment}
    {s? s?' : Option Session} (bound : Nat) (change : Change m id s? s?')
    (crosses : happens m = [] ∨
      (happens m).length = 1 ∧ Session.progress s? < bound ∧ bound ≤ Session.progress s?')
    (earlier : (history.flatMap happens).length ≤ if bound ≤ Session.progress s? then 1 else 0) :
    ((history ++ [m]).flatMap happens).length ≤
      if bound ≤ Session.progress s?' then 1 else 0 := by
  have gained := change.progress_mono
  rw [List.flatMap_append, List.flatMap_singleton, List.length_append]
  cases crosses with
  | inl nothing =>
    rw [nothing, List.length_nil]
    split at earlier
    · rw [if_pos (by omega)]
      omega
    · omega
  | inr crossed =>
    obtain ⟨once, before, after⟩ := crossed
    rw [if_neg (by omega)] at earlier
    rw [once, if_pos after]
    omega

end Step

/-- The session under an id waits for the user to type cycle-3 data in. -/
def Store.awaitsCycle3 (store : Store) (id : SessionId) : Bool :=
  match store.get id with
  | .ok (some s) => s.state.awaitsCycle3
  | _ => false

/-- The user is asked for cycle-3 data. -/
def Moment.asksCycle3 (m : Moment) (id : SessionId) : Bool :=
  m.reply.store.awaitsCycle3 id && !m.store.awaitsCycle3 id

theorem Store.awaitsCycle3_iff {store : Store} {id : SessionId} {s? : Option Session}
    (found : store.get id = .ok s?) :
    store.awaitsCycle3 id = true ↔ Session.progress s? = 2 := by
  rw [awaitsCycle3, found]
  cases s? with
  | none => simp [Session.progress]
  | some s => exact State.awaitsCycle3_iff

/-- What a run has asked about a session so far. -/
structure Asked (id : SessionId) (history : List Moment) (s? : Option Session) : Prop where
  inOrder : ((history.flatMap (·.queries id)).map (·.stage)).Sublist
    (Stage.askedBy (Session.progress s?))
  cycle3 : history.countP (·.asksCycle3 id) ≤ if 2 ≤ Session.progress s? then 1 else 0

theorem asked_start {id : SessionId} : Asked id [] none :=
  ⟨List.nil_sublist _, Nat.le_refl 0⟩

theorem asked_step {id : SessionId} {history : List Moment} {m : Moment}
    {s? s?' : Option Session} (found : m.store.get id = .ok s?)
    (stored : m.reply.store.get id = .ok s?') (change : Change m id s? s?')
    (asked : Asked id history s?) : Asked id (history ++ [m]) s?' := by
  constructor
  · rw [List.flatMap_append, List.flatMap_singleton, List.map_append]
    exact (asked.inOrder.append_right _).trans change.askedBy
  · have gained := change.progress_mono
    have before := asked.cycle3
    rw [List.countP_append, List.countP_singleton]
    by_cases asks : m.asksCycle3 id = true
    · -- The session did not wait for data before and does now, so it has never waited before.
      have once := asks
      rw [Moment.asksCycle3, Bool.and_eq_true, Bool.not_eq_true', ← Bool.not_eq_true,
        Store.awaitsCycle3_iff stored, Store.awaitsCycle3_iff found] at once
      rw [if_neg (by omega)] at before
      rw [if_pos asks, if_pos (by omega)]
      omega
    · rw [if_neg asks]
      split at before
      · rw [if_pos (by omega)]
        omega
      · omega

/-- Over a run, whatever happens to a session is a step forward: from its authentication on every
operation leaves its state or gains rank, an end is only left for a timeout after the deadline, and
a timeout is never left; the matching service is asked each of its questions once at most and in
order, and the user is asked for cycle-3 data once at most. -/
theorem run_only_forward {history : List Moment} {store : Store} (run : Run history store)
    (id : SessionId) :
    (∀ s, store.get id = .ok (some s) → ∀ env op, op.Fresh store →
      ∃ s', (perform env store op).store.get id = .ok (some s') ∧ s.OnlyForward env.now s') ∧
    ((history.flatMap (·.queries id)).map (·.stage)).Sublist
      [.cycle01, .cycle3, .accountCreation] ∧
    history.countP (·.asksCycle3 id) ≤ 1 := by
  obtain ⟨s?, _, asked⟩ := run.holds asked_start asked_step
  refine ⟨fun s found env op fresh => ?_, asked.inOrder.trans (Stage.askedBy_sublist _),
    Nat.le_trans asked.cycle3 (by split <;> decide)⟩
  let m : Moment := ⟨env, store, op⟩
  obtain ⟨s?', stored, change⟩ := change_of_sound (m := m) run.sound fresh found
  obtain ⟨s', rfl, forward⟩ := change.forward
  exact ⟨s', stored, forward⟩

/-- A poll after the match finds the session as the match left it, after one question in all. -/
theorem sample_only_forward :
    (∃ s s', Sample.matching.reply.store.get Sample.id = .ok (some s) ∧ s.state.rank = 5 ∧
      (perform Sample.env Sample.matching.reply.store (.processingDetails Sample.id)).store.get
        Sample.id = .ok (some s') ∧
      s.OnlyForward Sample.env.now s') ∧
    (([Sample.opening, Sample.choosing, Sample.authenticating, Sample.matching].flatMap
      (·.queries Sample.id)).map (·.stage)).Sublist [.cycle01, .cycle3, .accountCreation] := by
  obtain ⟨steps, inOrder, _⟩ := run_only_forward Sample.run Sample.id
  obtain ⟨s', stored, forward⟩ := steps _ rfl Sample.env (.processingDetails Sample.id) trivial
  exact ⟨⟨_, s', rfl, rfl, stored, forward⟩, inOrder⟩

end SignInJourney
