import SignInJourney.Proofs.Service.Identity
import SignInJourney.Proofs.Service.Levels

/-!
The domestic and the cross-border journey never mix. A state tells its family (`State.family?`), an
identity that waits in it has assertions of that family (`Run.consistent`), and a handler that does
not take the session back to the start keeps it on course for its family (`Decides.onCourse`), so a
session only gets from one family to the other by way of the start (`Run.start_between`).
-/

namespace SignInJourney

open Service Journey

namespace State

/-- The family whose journey alone has the state. The start is on both journeys, and so are the ends
that do not tell. -/
def family? : State → Option Family
  | .providerSelected _ | .authnFailed _ | .requesterError | .fraudDetected _ | .registrationPaused
  | .accountCreationFailed => some .domestic
  | .countrySelected _ | .countryAuthnFailed _ _ | .eidasAccountCreationFailed _ => some .eidas
  | .matchRequested family _ _ | .awaitingCycle3 family _ | .matched family _ => some family
  | .sessionStarted _ | .cycle3Cancelled | .accountCreated _ | .unmatched _ | .nonMatchingSuccess _
  | .matchingFailed _ | .timedOut => none

theorem isEidas_iff {state : State} : state.isEidas = true ↔ state.family? = some .eidas := by
  cases state with
  | matchRequested family => cases family <;> simp [isEidas, family?]
  | awaitingCycle3 family => cases family <;> simp [isEidas, family?]
  | matched family => cases family <;> simp [isEidas, family?]
  | _ => simp [isEidas, family?]

/-- Only the start lets its user choose between the families. -/
theorem domestic_of_supports {state : State} {family : Family}
    (supports : state.supports .idpSelecting = true) (belongs : state.family? = some family) :
    family = .domestic := by
  cases state <;> simp [State.supports, capabilities] at supports <;> cases belongs <;> rfl

theorem eidas_of_supports {state : State} {family : Family}
    (supports : state.supports .countrySelecting = true) (belongs : state.family? = some family) :
    family = .eidas := by
  cases state <;> simp [State.supports, capabilities] at supports <;> cases belongs <;> rfl

/-- The identity that the state waits with has assertions of the state's family. -/
def Consistent (state : State) : Prop :=
  ∀ family identity, state.identity? = some (family, identity) →
    identity.assertions.family = family

theorem consistent_of_none {state : State} (nobody : state.identity? = none) :
    state.Consistent := by
  intro family identity waits
  rw [nobody] at waits
  cases waits

theorem consistent_of_eq {state : State} {family : Family} {identity : Identity}
    (waits : state.identity? = some (family, identity))
    (same : identity.assertions.family = family) : state.Consistent := by
  intro family' identity' waits'
  cases waits.symm.trans waits'
  exact same

/-- On the journey of a family, or at an end that does not tell. -/
def OnCourse (family : Family) (state : State) : Prop :=
  state.family? = some family ∨ state.family? = none ∧ 5 ≤ state.rank

theorem OnCourse.eq_of_family {state : State} {family family' : Family}
    (onCourse : state.OnCourse family) (belongs : state.family? = some family') :
    family' = family := by
  rcases onCourse with same | ⟨untold, _⟩
  · exact Option.some.inj (belongs.symm.trans same)
  · rw [belongs] at untold
    cases untold

end State

section Consistent

variable {env : Environment} {s : Session} {op : Operation} {next : State}

theorem consistent_of_provider {sel : ProviderSelection} {r : ProviderResponse}
    {d : Decision ResponseAction} (outcome : ProviderResponse.Outcome env s.envelope sel r d)
    (commits : d.next = some next) : next.Consistent := by
  cases outcome with
  | matching =>
    cases commits
    exact State.consistent_of_eq rfl rfl
  | noContextSigningIn _ _ _ _ start =>
    obtain ⟨_, _, rfl⟩ := Environment.startState_eq_ok.mp start
    cases commits
    exact State.consistent_of_none rfl
  | _ => cases commits; exact State.consistent_of_none rfl

theorem consistent_of_country {sel : CountrySelection} {r : CountryResponse}
    {d : Decision ResponseAction} (outcome : Country.Outcome env s.envelope sel r d)
    (commits : d.next = some next) : next.Consistent := by
  cases outcome with
  | matching =>
    cases commits
    exact State.consistent_of_eq rfl rfl
  | _ => cases commits; exact State.consistent_of_none rfl

theorem consistent_of_matching {p : Matching.Pending} {r : MatchingResponse} {d : Decision Unit}
    (same : p.identity.assertions.family = p.family) (outcome : Matching.Outcome env p r d)
    (commits : d.next = some next) : next.Consistent := by
  cases outcome with
  | asksCycle3 => cases commits; exact State.consistent_of_eq rfl same
  | asksAccount => cases commits; exact State.consistent_of_eq rfl same
  | accountCreationFailed =>
    cases commits
    cases p.family <;> exact State.consistent_of_none rfl
  | _ => cases commits; exact State.consistent_of_none rfl

theorem Service.Decides.consistent {d : Decision Answer} (decides : Decides env s op d)
    (before : s.state.Consistent) (commits : d.next = some next) : next.Consistent := by
  cases decides with
  | providerAnswered _ outcome => exact consistent_of_provider outcome commits
  | countryAnswered _ outcome => exact consistent_of_country outcome commits
  | @matchingAnswered _ _ p _ waits outcome =>
    rw [(Matching.pending?_eq_some.mp waits).2] at before
    exact consistent_of_matching (before p.family p.identity rfl) outcome commits
  | @cycle3Submitted _ _ a _ _ asks =>
    rw [(Cycle3.asked?_eq_some.mp asks).2] at before
    cases commits
    exact State.consistent_of_eq rfl (before a.family a.identity rfl)
  | restarted start =>
    obtain ⟨_, _, rfl⟩ := Environment.startState_eq_ok.mp start
    cases commits
    exact State.consistent_of_none rfl
  | _ => cases commits <;> exact State.consistent_of_none rfl

/-- The identity of every session in a run has assertions of its family. -/
theorem Run.consistent {history : List Moment} {store : Store} (run : Run history store)
    {id : SessionId} {s : Session} (found : store.get id = .ok (some s)) : s.state.Consistent := by
  apply run.invariant (Q := fun _ s => s.state.Consistent) ?_ ?_ ?_ ?_ found
  · exact fun consistent _ => consistent
  · intro _ _ _ stands
    exact State.consistent_of_none (by rw [stands]; rfl)
  · intro _ _ stands
    exact State.consistent_of_none (by rw [stands]; rfl)
  · exact fun h before => h.decides.consistent before h.commits

end Consistent

section Course

variable {env : Environment} {s : Session} {op : Operation} {next : State} {family : Family}

/-- Back at the start, where both journeys are open. -/
def State.IsStart (state : State) : Prop :=
  ∃ providers, state = .sessionStarted providers

theorem onCourse_of_provider {sel : ProviderSelection} {r : ProviderResponse}
    {d : Decision ResponseAction} (outcome : ProviderResponse.Outcome env s.envelope sel r d)
    (commits : d.next = some next) : next.IsStart ∨ next.OnCourse .domestic := by
  cases outcome with
  | nonMatching =>
    cases commits
    exact .inr (.inr ⟨rfl, Nat.le_refl 5⟩)
  | noContextSigningIn _ _ _ _ start =>
    obtain ⟨_, _, rfl⟩ := Environment.startState_eq_ok.mp start
    cases commits
    exact .inl ⟨_, rfl⟩
  | _ => cases commits; exact .inr (.inl rfl)

theorem onCourse_of_country {sel : CountrySelection} {r : CountryResponse}
    {d : Decision ResponseAction} (outcome : Country.Outcome env s.envelope sel r d)
    (commits : d.next = some next) : next.OnCourse .eidas := by
  cases outcome with
  | nonMatching => cases commits; exact .inr ⟨rfl, Nat.le_refl 5⟩
  | _ => cases commits; exact .inl rfl

theorem onCourse_of_matching {p : Matching.Pending} {r : MatchingResponse} {d : Decision Unit}
    (outcome : Matching.Outcome env p r d) (commits : d.next = some next) :
    next.OnCourse p.family := by
  cases outcome with
  | matched => cases commits; exact .inl rfl
  | asksCycle3 => cases commits; exact .inl rfl
  | asksAccount => cases commits; exact .inl rfl
  | accountCreationFailed =>
    cases commits
    left
    cases family : p.family <;> rfl
  | _ => cases commits; exact .inr ⟨rfl, Nat.le_refl 5⟩

/-- A handler takes the session back to the start or keeps it on course. -/
theorem Service.Decides.onCourse {d : Decision Answer} (decides : Decides env s op d)
    (supports : ∀ c, op.needed = some c → s.state.supports c = true)
    (commits : d.next = some next) (before : s.state.OnCourse family) :
    next.IsStart ∨ next.OnCourse family := by
  -- The ends are not left, so the state before is one of the family's own.
  have onTheWay : s.state.rank < 5 := (decides.forward supports commits).rank_lt_five
  have belongs : s.state.family? = some family := by
    rcases before with belongs | ⟨_, ended⟩
    · exact belongs
    · omega
  cases decides with
  | providerSelected =>
    cases commits
    rw [State.domestic_of_supports (supports _ rfl) belongs]
    exact .inr (.inl rfl)
  | countrySelected =>
    cases commits
    rw [State.eidas_of_supports (supports _ rfl) belongs]
    exact .inr (.inl rfl)
  | providerAnswered stands outcome =>
    rw [stands] at belongs
    cases belongs
    exact onCourse_of_provider outcome commits
  | countryAnswered stands outcome =>
    rw [stands] at belongs
    cases belongs
    exact .inr (onCourse_of_country outcome commits)
  | matchingAnswered waits outcome =>
    rw [(Matching.pending?_eq_some.mp waits).2] at belongs
    cases belongs
    exact .inr (onCourse_of_matching outcome commits)
  | matchingFailed => cases commits; exact .inr (.inr ⟨rfl, Nat.le_refl 5⟩)
  | givenUp => cases commits; exact .inr (.inr ⟨rfl, Nat.le_refl 5⟩)
  | cycle3Submitted asks =>
    rw [(Cycle3.asked?_eq_some.mp asks).2] at belongs
    cases commits
    exact .inr (.inl belongs)
  | cycle3Cancelled => cases commits; exact .inr (.inr ⟨rfl, Nat.le_refl 5⟩)
  | restarted start =>
    obtain ⟨_, _, rfl⟩ := Environment.startState_eq_ok.mp start
    cases commits
    exact .inl ⟨_, rfl⟩
  | _ => cases commits

end Course

section Histories

variable {m : Moment} {id : SessionId} {family : Family}

/-- The moment leaves the session at the start. -/
def Moment.LeavesAtStart (m : Moment) (id : SessionId) : Prop :=
  ∃ state : State, state.IsStart ∧ m.Leaves id state

/-- Since a session was on course for a family, it has been at the start again or still is. -/
def CourseSince (id : SessionId) (family : Family) (since : List Moment) (s? : Option Session) :
    Prop :=
  ∃ s, s? = some s ∧ ((∃ m ∈ since, m.LeavesAtStart id) ∨ s.state.OnCourse family)

theorem courseSince_step {since : List Moment} {s? s?' : Option Session}
    (stored : m.reply.store.get id = .ok s?') (change : Change m id s? s?')
    (course : CourseSince id family since s?) : CourseSince id family (since ++ [m]) s?' := by
  obtain ⟨s, rfl, course⟩ := course
  obtain ⟨s', rfl, _⟩ := change.forward
  refine ⟨s', rfl, ?_⟩
  rcases course with ⟨m', member, restarts⟩ | before
  · exact .inl ⟨m', List.mem_append_left _ member, restarts⟩
  · cases change with
    | idle => exact .inr before
    | expires => exact .inr (.inr ⟨rfl, Nat.le_succ 5⟩)
    | commits _ allowed decides commits =>
      rcases decides.onCourse allowed.supports commits before with start | onCourse
      · exact .inl ⟨m, List.mem_append_right _ (List.mem_singleton_self m), _, start, _, stored,
          rfl⟩
      · exact .inr onCourse

theorem Run.start_between {before between after : List Moment} {m₁ m₂ : Moment} {store : Store}
    {state₁ state₂ : State} {family₁ family₂ : Family}
    (run : Run (before ++ m₁ :: (between ++ m₂ :: after)) store)
    (first : m₁.Leaves id state₁) (belongs₁ : state₁.family? = some family₁)
    (second : m₂.Leaves id state₂) (belongs₂ : state₂.family? = some family₂)
    (apart : family₁ ≠ family₂) : ∃ m ∈ between, m.LeavesAtStart id := by
  have whole : Run ((before ++ m₁ :: between) ++ m₂ :: after) store := by simpa using run
  have run₂ : Run (before ++ m₁ :: (between ++ [m₂])) m₂.reply.store := by
    simpa using whole.through_moment
  have course : ∃ s?, m₂.reply.store.get id = .ok s? ∧
      CourseSince id family₁ (between ++ [m₂]) s? := by
    refine run₂.holds_since (fun left => ?_) fun _ => courseSince_step
    obtain ⟨s, stored, rfl⟩ := first
    exact ⟨s, Except.ok.inj (left.symm.trans stored), .inr (.inl belongs₁)⟩
  obtain ⟨_, left, s, rfl, course⟩ := course
  obtain ⟨s', stored, rfl⟩ := second
  cases left.symm.trans stored
  rcases course with ⟨m, member, state, start, restarts⟩ | onCourse
  · rcases List.mem_append.mp member with earlier | last
    · exact ⟨m, earlier, state, start, restarts⟩
    · -- The second moment leaves the session in its family, and so not at the start.
      cases List.mem_singleton.mp last
      obtain ⟨s', stored', rfl⟩ := restarts
      cases stored.symm.trans stored'
      obtain ⟨providers, starts⟩ := start
      rw [starts] at belongs₂
      cases belongs₂
  · exact absurd (onCourse.eq_of_family belongs₂).symm apart

/-- A question is asked for the family of the state that waits for its answer. -/
theorem Run.isEidas_query {history : List Moment} {store : Store} (run : Run history store)
    (member : m ∈ history) {q : AttributeQuery} (asked : q ∈ m.queries id) :
    ∃ s, m.reply.store.get id = .ok (some s) ∧ q.isEidas = s.state.isEidas := by
  obtain ⟨before, after, rfl⟩ := List.append_of_mem member
  obtain ⟨earlier, fresh⟩ := run.at_moment
  obtain ⟨s?, found, _⟩ := earlier.sound id
  obtain ⟨s?', stored, change⟩ := change_of_sound earlier.sound fresh found
  cases change with
  | idle unasked => rw [unasked] at asked; cases asked
  | opens _ _ unasked => rw [unasked] at asked; cases asked
  | expires _ _ unasked => rw [unasked] at asked; cases asked
  | commits _ allowed decides commits sends =>
    rw [sends, Option.mem_toList] at asked
    have forward := decides.forward allowed.supports commits
    rw [asked, Option.map_some] at forward
    obtain ⟨family, request, rfl⟩ := forward.eq_matchRequested
    obtain ⟨_, q', query, carries⟩ := decides.asks commits
    cases asked.symm.trans query
    have same : request.identity.assertions.family = family :=
      run.through_moment.consistent stored family request.identity rfl
    refine ⟨_, stored, ?_⟩
    rw [AttributeQuery.isEidas, carries.assertions, same]
    cases family <;> rfl

end Histories

/-- The domestic and the cross-border journey never mix: the identity that a session waits with has
assertions of the session's family, a query is for the family of the state that is stored as it is
sent, and between a state that only a domestic journey has and one of a cross-border journey, in
either order, the session was at the start. -/
theorem run_families_apart {history : List Moment} {store : Store} (run : Run history store)
    (id : SessionId) :
    (∀ s family identity, store.get id = .ok (some s) →
      s.state.identity? = some (family, identity) → identity.assertions.family = family) ∧
    (∀ m ∈ history, ∀ q ∈ m.queries id,
      ∃ s, m.reply.store.get id = .ok (some s) ∧ q.isEidas = s.state.isEidas) ∧
    ∀ before m₁ between m₂ after, history = before ++ m₁ :: (between ++ m₂ :: after) →
      ∀ state₁ state₂, m₁.Leaves id state₁ → m₂.Leaves id state₂ →
        state₁.family? = some .domestic ∧ state₂.isEidas = true ∨
          state₁.isEidas = true ∧ state₂.family? = some .domestic →
        ∃ m ∈ between, m.LeavesAtStart id := by
  refine ⟨fun s family identity found => run.consistent found family identity,
    fun m member q asked => run.isEidas_query member asked, ?_⟩
  rintro before m₁ between m₂ after rfl state₁ state₂ first second
    (⟨domestic, eidas⟩ | ⟨eidas, domestic⟩)
  · rw [State.isEidas_iff] at eidas
    exact run.start_between first domestic second eidas (by decide)
  · rw [State.isEidas_iff] at eidas
    exact run.start_between first eidas second domestic (by decide)

/-! The sample's user, who picks the provider first and then changes over to the country. -/

namespace Sample

def undecided : Environment :=
  { env with
    directory :=
      .ofDocument
        { transactions := [{ transaction with eidasEnabled := true, eidasCountries := [country.id] }]
          providers := [provider]
          matchingServices := [matchingService]
          countries := [country] } }

def wavering : Moment :=
  { opening with env := undecided }

def staying : Moment :=
  ⟨undecided, wavering.reply.store, .selectProvider id
    { provider := provider.id, ip := "192.0.2.1", registering := false, requested := .two }⟩

def restarting : Moment :=
  ⟨undecided, staying.reply.store, .restart id⟩

def leaving : Moment :=
  ⟨undecided, restarting.reply.store, .selectCountry id country.id⟩

theorem run_leaving : Run [wavering, staying, restarting, leaving] leaving.reply.store := by
  have opened : Run [wavering] wavering.reply.store := .step (m := wavering) .start rfl
  have stayed : Run [wavering, staying] staying.reply.store := .step (m := staying) opened trivial
  have back : Run [wavering, staying, restarting] restarting.reply.store :=
    .step (m := restarting) stayed trivial
  exact .step (m := leaving) back trivial

end Sample

/-- The user who changes over was back at the start in between. -/
theorem sample_families_apart : Sample.restarting.LeavesAtStart Sample.id := by
  obtain ⟨_, _, between⟩ := run_families_apart Sample.run_leaving Sample.id
  obtain ⟨m, member, start⟩ := between [Sample.wavering] Sample.staying [Sample.restarting]
    Sample.leaving [] rfl _ _ ⟨_, rfl, rfl⟩ ⟨_, rfl, rfl⟩ (.inl ⟨rfl, rfl⟩)
  rw [List.mem_singleton.mp member] at start
  exact start

end SignInJourney
