import SignInJourney.Proofs.Service.Asking

/-!
An authenticated identity is fixed. From the request that first puts it to the matching service,
every state of the journey is about that identity (`State.IsAbout`), and the data that a later
request has beside it are the ones that the user typed in (`Typed`).
-/

namespace SignInJourney

open Service Journey

/-- The outcome names the party, the level and the purpose of the identity. -/
structure MatchOutcome.IsAbout (o : MatchOutcome) (identity : Identity) : Prop where
  provider : o.provider = identity.provider
  level : o.level = identity.level
  registering : o.registering = identity.registering

namespace State

/-- The journey is about a user with this identity: while it waits it has all of the identity, and
its ends name what they tell of it. -/
def IsAbout (family : Family) (identity : Identity) : State → Prop
  | .matchRequested family' _ request => family' = family ∧ request.identity = identity
  | .awaitingCycle3 family' identity' => family' = family ∧ identity' = identity
  | .matched family' outcome => family' = family ∧ outcome.IsAbout identity
  | .accountCreated outcome => outcome.IsAbout identity
  | .unmatched provider | .matchingFailed provider => provider = identity.provider
  | .accountCreationFailed => family = .domestic
  | .eidasAccountCreationFailed country => family = .eidas ∧ country = identity.provider
  | .cycle3Cancelled | .timedOut => True
  | _ => False

/-- Comes of a request to the matching service, and of nothing else. -/
def comesOfRequest : State → Bool
  | .matchRequested _ _ _ | .awaitingCycle3 _ _ | .cycle3Cancelled | .matched _ _
  | .accountCreated _ | .unmatched _ | .matchingFailed _ | .accountCreationFailed
  | .eidasAccountCreationFailed _ => true
  | _ => false

theorem IsAbout.rank_ne_zero {family : Family} {identity : Identity} {state : State}
    (about : state.IsAbout family identity) : state.rank ≠ 0 := by
  cases state with
  | matchRequested _ stage => cases stage <;> simp [rank, Stage.rank]
  | _ => first
    | exact about.elim
    | simp [rank]

end State

namespace Journey.Matching

theorem Pending.isAbout_outcome (p : Pending) (assertion : String) :
    (p.outcome assertion).IsAbout p.identity :=
  ⟨rfl, rfl, rfl⟩

theorem Outcome.isAbout {env : Environment} {p : Pending} {r : MatchingResponse}
    {d : Decision Unit} {next : State} (outcome : Outcome env p r d)
    (commits : d.next = some next) : next.IsAbout p.family p.identity := by
  cases outcome with
  | matched =>
    cases commits
    exact ⟨rfl, p.isAbout_outcome _⟩
  | accountCreated =>
    cases commits
    exact p.isAbout_outcome _
  | asksCycle3 =>
    cases commits
    exact ⟨rfl, rfl⟩
  | asksAccount =>
    cases commits
    exact ⟨rfl, rfl⟩
  | accountCreationFailed =>
    cases commits
    cases family : p.family with
    | domestic => exact rfl
    | eidas => exact ⟨rfl, rfl⟩
  | unmatched => cases commits; exact rfl
  | requesterError => cases commits; exact rfl

end Journey.Matching

section Step

variable {env : Environment} {s : Session} {op : Operation} {d : Decision Answer} {next : State}
  {family : Family} {identity : Identity}

/-- No handler changes what the journey is about. -/
theorem Service.Decides.isAbout (decides : Decides env s op d)
    (supports : ∀ c, op.needed = some c → s.state.supports c = true)
    (commits : d.next = some next) (about : s.state.IsAbout family identity) :
    next.IsAbout family identity := by
  cases decides.proceeds supports about.rank_ne_zero commits with
  | answered waits outcome commits =>
    rw [(Matching.pending?_eq_some.mp waits).2] at about
    obtain ⟨rfl, rfl⟩ := about
    exact outcome.isAbout commits
  | failed waits =>
    rw [(Matching.pending?_eq_some.mp waits).2] at about
    obtain ⟨rfl, rfl⟩ := about
    exact rfl
  | submitted asks =>
    rw [(Cycle3.asked?_eq_some.mp asks).2] at about
    obtain ⟨rfl, rfl⟩ := about
    exact ⟨rfl, rfl⟩
  | cancelled => exact trivial

theorem comesOfRequest_of_provider {sel : ProviderSelection} {r : ProviderResponse}
    {d : Decision ResponseAction} (outcome : ProviderResponse.Outcome env s.envelope sel r d)
    (commits : d.next = some next) (comes : next.comesOfRequest = true) :
    ∃ family request, next = .matchRequested family .cycle01 request := by
  cases outcome with
  | matching => cases commits; exact ⟨_, _, rfl⟩
  | noContextSigningIn _ _ _ _ start =>
    obtain ⟨_, _, rfl⟩ := Environment.startState_eq_ok.mp start
    cases commits
    cases comes
  | _ => cases commits; cases comes

theorem comesOfRequest_of_country {sel : CountrySelection} {r : CountryResponse}
    {d : Decision ResponseAction} (outcome : Country.Outcome env s.envelope sel r d)
    (commits : d.next = some next) (comes : next.comesOfRequest = true) :
    ∃ family request, next = .matchRequested family .cycle01 request := by
  cases outcome with
  | matching => cases commits; exact ⟨_, _, rfl⟩
  | _ => cases commits; cases comes

/-- The request that everything comes of is the one of cycle 0/1. -/
theorem Service.Decides.comesOfRequest (decides : Decides env s op d)
    (commits : d.next = some next) (comes : next.comesOfRequest = true) :
    s.state.comesOfRequest = true ∨
      ∃ family request, next = .matchRequested family .cycle01 request := by
  cases decides with
  | providerAnswered _ outcome => exact .inr (comesOfRequest_of_provider outcome commits comes)
  | countryAnswered _ outcome => exact .inr (comesOfRequest_of_country outcome commits comes)
  | matchingAnswered waits => rw [(Matching.pending?_eq_some.mp waits).2]; exact .inl rfl
  | matchingFailed waits => rw [(Matching.pending?_eq_some.mp waits).2]; exact .inl rfl
  | givenUp waits => rw [(Matching.pending?_eq_some.mp waits).2]; exact .inl rfl
  | cycle3Submitted asks => rw [(Cycle3.asked?_eq_some.mp asks).2]; exact .inl rfl
  | cycle3Cancelled asks => rw [(Cycle3.asked?_eq_some.mp asks).2]; exact .inl rfl
  | restarted start =>
    obtain ⟨_, _, rfl⟩ := Environment.startState_eq_ok.mp start
    cases commits
    cases comes
  | _ => cases commits <;> cases comes

end Step

namespace Moment

/-- The moment leaves the session in this state. -/
def Leaves (m : Moment) (id : SessionId) (state : State) : Prop :=
  ∃ s, m.reply.store.get id = .ok (some s) ∧ s.state = state

/-- The user types cycle-3 data in, and they are taken under the name that the transaction gives.
-/
inductive Submits (m : Moment) (id : SessionId) : Cycle3Dataset → Prop
  | intro {s : Session} {a : Cycle3.Asked} {name : String} {input : Cycle3Input}
      (operation : m.operation = .submitCycle3 id input) (found : m.store.get id = .ok (some s))
      (asks : Cycle3.asked? s = some a) (named : Cycle3.attributeName m.env a = .ok name)
      (accepted : m.reply.result = .ok .done) : Submits m id (.single name input.value)

end Moment

/-- The user has typed these cycle-3 data in. -/
def Submitted (id : SessionId) (history : List Moment) (dataset : Cycle3Dataset) : Prop :=
  ∃ m ∈ history, m.Submits id dataset

theorem submitted_append {id : SessionId} {history : List Moment} {m : Moment}
    {dataset : Cycle3Dataset} :
    Submitted id (history ++ [m]) dataset ↔
      Submitted id history dataset ∨ m.Submits id dataset := by
  simp only [Submitted, List.mem_append, List.mem_singleton, or_and_right, exists_or,
    exists_eq_left]

section Histories

variable {m : Moment} {id : SessionId} {history : List Moment} {s? s?' : Option Session}

/-- Data that are taken go with the session's next request. -/
theorem Moment.Submits.leaves {dataset : Cycle3Dataset} (sound : m.store.Sound)
    (submits : m.Submits id dataset) :
    (∃ s, m.store.get id = .ok (some s) ∧ s.state.rank = 2) ∧
      ∃ family request, m.Leaves id (.matchRequested family .cycle3 request) ∧
        request.cycle3Dataset = some dataset := by
  obtain ⟨operation, found, asks, named, accepted⟩ := submits
  have stands := (Cycle3.asked?_eq_some.mp asks).2
  refine ⟨⟨_, found, by rw [stands]; rfl⟩, ?_⟩
  have needed : m.operation.needed = some .awaitingCycle3Data := by rw [operation]; rfl
  obtain ⟨s, d, stored, _, decides, _, left⟩ := m.decides_of_accepted sound needed accepted
  rw [operation] at stored decides left
  cases Option.some.inj (Except.ok.inj (stored.symm.trans found))
  cases decides with
  | cycle3Submitted asks' named' =>
    cases Option.some.inj (asks.symm.trans asks')
    cases Except.ok.inj (named.symm.trans named')
    exact ⟨_, _, ⟨_, left _ rfl, rfl⟩, rfl⟩

/-- The user has been put to the matching service in cycle 0/1. -/
def PutToMatching (id : SessionId) (history : List Moment) : Prop :=
  ∃ m ∈ history, ∃ family request, m.Leaves id (.matchRequested family .cycle01 request)

theorem PutToMatching.append (h : PutToMatching id history) (m : Moment) :
    PutToMatching id (history ++ [m]) := by
  obtain ⟨earlier, member, leaves⟩ := h
  exact ⟨earlier, List.mem_append_left _ member, leaves⟩

/-- A session is about the identity that it was first put to the matching service with, and there is
one once anything has come of that. -/
structure Fixed (id : SessionId) (history : List Moment) (s? : Option Session) : Prop where
  about : ∀ m ∈ history, ∀ family request, m.Leaves id (.matchRequested family .cycle01 request) →
    ∃ s, s? = some s ∧ s.state.IsAbout family request.identity
  put : ∀ s, s? = some s → s.state.comesOfRequest = true → PutToMatching id history

theorem fixed_start : Fixed id [] none :=
  ⟨fun _ member => absurd member List.not_mem_nil, fun _ none => nomatch none⟩

theorem fixed_step (stored : m.reply.store.get id = .ok s?') (change : Change m id s? s?')
    (fixed : Fixed id history s?) : Fixed id (history ++ [m]) s?' := by
  constructor
  case about =>
    intro m' member family request leaves
    cases List.mem_append.mp member with
    | inl earlier =>
      obtain ⟨s, rfl, about⟩ := fixed.about m' earlier family request leaves
      cases change with
      | idle => exact ⟨s, rfl, about⟩
      | expires => exact ⟨_, rfl, trivial⟩
      | commits _ allowed decides commits =>
        exact ⟨_, rfl, decides.isAbout allowed.supports commits about⟩
    | inr last =>
      cases List.mem_singleton.mp last
      obtain ⟨s, found, stands⟩ := leaves
      refine ⟨s, Except.ok.inj (stored.symm.trans found), ?_⟩
      rw [stands]
      exact ⟨rfl, rfl⟩
  case put =>
    rintro s rfl comes
    cases change with
    | idle => exact (fixed.put s rfl comes).append m
    | opens _ opens =>
      obtain ⟨_, starts⟩ := Start.state_of_openSession opens
      rw [starts] at comes
      cases comes
    | expires => cases comes
    | commits _ _ decides commits =>
      cases decides.comesOfRequest commits comes with
      | inl before => exact (fixed.put _ rfl before).append m
      | inr first =>
        obtain ⟨family, request, rfl⟩ := first
        exact ⟨m, List.mem_append_right _ (List.mem_singleton_self m), family, request, _, stored,
          rfl⟩

/-- Where the typed-in data of a session's request come from: nothing has been typed in until the
user is asked, and from then on a request has what has been. -/
structure Typed (id : SessionId) (history : List Moment) (s? : Option Session) : Prop where
  early : Session.progress s? ≤ 2 → ∀ dataset, ¬ Submitted id history dataset
  held : ∀ s family stage request, s? = some s → s.state = .matchRequested family stage request →
    ∀ dataset, request.cycle3Dataset = some dataset ↔ Submitted id history dataset
  given : ∀ s family request, s? = some s → s.state = .matchRequested family .cycle3 request →
    ∃ dataset, request.cycle3Dataset = some dataset

/-- A session that waits for the matching service does not wait for its user. -/
theorem Session.progress_ne_two {s : Session} {family : Family} {stage : Stage}
    {request : MatchRequest} (waits : s.state = .matchRequested family stage request) :
    Session.progress (some s) ≠ 2 := by
  show s.state.rank ≠ 2
  rw [waits]
  cases stage <;> simp [State.rank, Stage.rank]

theorem submitted_append_of_progress {dataset : Cycle3Dataset} (sound : m.store.Sound)
    (found : m.store.get id = .ok s?) (elsewhere : Session.progress s? ≠ 2) :
    Submitted id (history ++ [m]) dataset ↔ Submitted id history dataset := by
  rw [submitted_append, or_iff_left_iff_imp]
  intro submits
  obtain ⟨⟨s, stored, awaits⟩, _⟩ := submits.leaves sound
  cases Except.ok.inj (found.symm.trans stored)
  exact absurd awaits elsewhere

theorem typed_start : Typed id [] none := by
  constructor
  case early =>
    rintro - dataset ⟨_, member, _⟩
    exact absurd member List.not_mem_nil
  case held => exact fun _ _ _ _ none => nomatch none
  case given => exact fun _ _ _ none => nomatch none

/-- The data of the request that a session gets to wait for. -/
theorem typed_of_origin {s s' : Session} {family : Family} {stage : Stage} {request : MatchRequest}
    (sound : m.store.Sound) (found : m.store.get id = .ok (some s))
    (stored : m.reply.store.get id = .ok (some s'))
    (stands : s'.state = .matchRequested family stage request) (on : m.operation.session = id)
    (accepted : ∀ input, m.operation = .submitCycle3 id input → m.reply.result = .ok .done)
    (typed : Typed id history (some s)) (origin : Origin m.env s m.operation family stage request)
    (dataset : Cycle3Dataset) :
    request.cycle3Dataset = some dataset ↔ Submitted id (history ++ [m]) dataset := by
  generalize operation : m.operation = op at origin on accepted
  cases origin with
  | authenticated unsettled bare =>
    have unsettled : Session.progress (some s) = 0 := unsettled
    rw [submitted_append_of_progress sound found (by omega), bare]
    exact iff_of_false nofun (typed.early (by omega) dataset)
  | submitted asks named =>
    cases on
    have awaits : Session.progress (some s) = 2 := by
      show s.state.rank = 2
      rw [(Cycle3.asked?_eq_some.mp asks).2]
      rfl
    rw [submitted_append, or_iff_right (typed.early (Nat.le_of_eq awaits) dataset)]
    constructor
    · intro same
      cases same
      exact .intro operation found asks named (accepted _ rfl)
    · intro submits
      obtain ⟨_, _, _, ⟨s'', left, waits⟩, has⟩ := submits.leaves sound
      cases Except.ok.inj (stored.symm.trans left)
      cases stands.symm.trans waits
      exact has
  | unmatched waits =>
    have before := (Matching.pending?_eq_some.mp waits).2
    rw [submitted_append_of_progress sound found (Session.progress_ne_two before)]
    exact typed.held s _ _ _ rfl before dataset

theorem typed_step (sound : m.store.Sound) (found : m.store.get id = .ok s?)
    (stored : m.reply.store.get id = .ok s?') (change : Change m id s? s?')
    (typed : Typed id history s?) : Typed id (history ++ [m]) s?' := by
  constructor
  case early =>
    intro early dataset submitted
    cases submitted_append.mp submitted with
    | inl before =>
      exact typed.early (Nat.le_trans change.progress_mono early) dataset before
    | inr submits =>
      obtain ⟨_, _, _, ⟨s, left, waits⟩, _⟩ := submits.leaves sound
      cases Except.ok.inj (stored.symm.trans left)
      have late : Session.progress (some s) = 3 := congrArg State.rank waits
      omega
  case held =>
    rintro s family stage request rfl waits dataset
    cases change with
    | idle =>
      rw [submitted_append_of_progress sound found (Session.progress_ne_two waits)]
      exact typed.held s family stage request rfl waits dataset
    | opens _ opens =>
      obtain ⟨_, starts⟩ := Start.state_of_openSession opens
      rw [starts] at waits
      cases waits
    | expires => cases waits
    | @commits before d _ on _ decides commits _ result =>
      cases waits
      have accepted : ∀ input, m.operation = .submitCycle3 id input → m.reply.result = .ok .done :=
        fun input operation => by
          rw [operation] at decides
          cases decides
          exact result
      exact typed_of_origin sound found stored rfl on accepted typed (decides.asks commits).1
        dataset
  case given =>
    rintro s family request rfl waits
    cases change with
    | idle => exact typed.given s family request rfl waits
    | opens _ opens =>
      obtain ⟨_, starts⟩ := Start.state_of_openSession opens
      rw [starts] at waits
      cases waits
    | expires => cases waits
    | commits _ _ decides commits =>
      cases waits
      generalize m.operation = op at decides
      cases (decides.asks commits).1 with
      | submitted => exact ⟨_, rfl⟩

end Histories

/-- What a session was first put to the matching service with is what its journey is about from then
on, whatever becomes of the directory: every request and every wait for the user has the identity as
it was, and every end names what it tells of it. The data beside it are none in cycle 0/1, some in
cycle 3, and in all the stages the ones that the user has typed in by then. -/
theorem run_identity_fixed {history : List Moment} {store : Store} (run : Run history store)
    {id : SessionId} {s : Session} (found : store.get id = .ok (some s)) :
    (∀ m ∈ history, ∀ family request, m.Leaves id (.matchRequested family .cycle01 request) →
      s.state.IsAbout family request.identity) ∧
    (s.state.comesOfRequest = true → PutToMatching id history) ∧
    ∀ family stage request, s.state = .matchRequested family stage request →
      (stage = .cycle01 → request.cycle3Dataset = none) ∧
      (stage = .cycle3 → ∃ dataset, request.cycle3Dataset = some dataset) ∧
      ∀ dataset, request.cycle3Dataset = some dataset ↔ Submitted id history dataset := by
  obtain ⟨s?, stored, fixed⟩ := run.holds fixed_start fun _ => fixed_step
  cases Except.ok.inj (found.symm.trans stored)
  obtain ⟨s?', stored', typed⟩ :=
    run.holds_of_run typed_start fun earlier => typed_step earlier.sound
  cases Except.ok.inj (found.symm.trans stored')
  refine ⟨fun m member family request leaves => ?_, fixed.put s rfl,
    fun family stage request waits => ⟨?_, ?_, typed.held s family stage request rfl waits⟩⟩
  · obtain ⟨_, ⟨⟩, about⟩ := fixed.about m member family request leaves
    exact about
  · rintro rfl
    have early : Session.progress (some s) = 1 := congrArg State.rank waits
    have nothing := typed.early (by omega)
    exact Option.eq_none_iff_forall_ne_some.mpr fun dataset given =>
      nothing dataset ((typed.held s family .cycle01 request rfl waits dataset).mp given)
  · rintro rfl
    exact typed.given s family request rfl waits

/-- After the user of the sample has typed something in, the request of cycle 3 is about the
identity of cycle 0/1 and has what was typed in. -/
theorem sample_identity_fixed :
    ∃ s request, Sample.submitting.reply.store.get Sample.id = .ok (some s) ∧
      s.state = .matchRequested .domestic .cycle3 request ∧
      s.state.IsAbout .domestic
        { provider := Sample.provider.id
          level := .two
          matchingService := Sample.matchingService.id
          registering := false
          assertions := .domestic "dataset" "statement" "user" } ∧
      ∀ dataset, request.cycle3Dataset = some dataset ↔
        Submitted Sample.id [Sample.opening, Sample.choosing, Sample.authenticating,
          Sample.unmatching, Sample.submitting] dataset := by
  have found : Sample.submitting.reply.store.get Sample.id = .ok (some _) := rfl
  obtain ⟨about, _, typed⟩ := run_identity_fixed Sample.run_submitting found
  have fixed := about Sample.authenticating (by simp) .domestic _ ⟨_, rfl, rfl⟩
  exact ⟨_, _, rfl, rfl, fixed, (typed _ _ _ rfl).2.2⟩

end SignInJourney
