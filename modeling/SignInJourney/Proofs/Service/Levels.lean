import SignInJourney.Proofs.Journey.ProviderSelection
import SignInJourney.Proofs.Service.Authenticated

/-!
The levels that reach the matching service. A domestic journey has a level that the directory
registers the transaction for, from the selection of a provider on (`State.LevelsDue`); a
cross-border one has level 2, the one level that is asked of every country, for whatever levels the
transaction is registered.
-/

namespace SignInJourney

open Service Journey

/-- The directory has the transaction, and registers it for the level. -/
def Directory.Registers (d : Directory) (transaction : String) (level : Level) : Prop :=
  ∃ t, d.transaction transaction = .ok t ∧ level ∈ t.levels

/-- The levels that a journey of the family may bring to the matching service. -/
def Family.Admits (directory : Directory) (transaction : String) : Family → Level → Prop
  | .domestic, level => directory.Registers transaction level
  | .eidas, level => level = .two

namespace State

/-- The identity that a state waits with, for the matching service or for the user. -/
def identity? : State → Option (Family × Identity)
  | .matchRequested family _ request => some (family, request.identity)
  | .awaitingCycle3 family identity => some (family, identity)
  | _ => none

/-- The state has no levels that a journey of its family may not bring to the matching service. -/
def LevelsDue (directory : Directory) (transaction : String) : State → Prop
  | .providerSelected sel => ∀ level ∈ sel.levels, directory.Registers transaction level
  | .matchRequested family _ request => family.Admits directory transaction request.identity.level
  | .awaitingCycle3 family identity => family.Admits directory transaction identity.level
  | _ => True

theorem LevelsDue.admits {directory : Directory} {transaction : String} {state : State}
    {family : Family} {identity : Identity} (due : state.LevelsDue directory transaction)
    (waits : state.identity? = some (family, identity)) :
    family.Admits directory transaction identity.level := by
  cases state with
  | matchRequested => cases waits; exact due
  | awaitingCycle3 => cases waits; exact due
  | _ => cases waits

end State

namespace Journey.ProviderSelection

/-- A provider is asked for levels that the transaction is registered for. -/
theorem registers_of_selection {env : Environment} {s : Session} {choice : ProviderChoice}
    {selected : ProviderSelection} (made : selection env s choice = .ok selected) :
    ∀ level ∈ selected.levels, env.directory.Registers s.envelope.issuer level := by
  intro level member
  obtain ⟨t, _, _, _, pickable, rfl⟩ := selection_eq_ok.mp made
  exact ⟨t, pickable.transaction, (mem_of_mem_deliverable (mem_requestedFirst.mp member)).1⟩

end Journey.ProviderSelection

section Step

variable {directory : Directory} {id : SessionId} {history : List Moment} {m : Moment} {s : Session}
  {next : State}

theorem levelsDue_of_provider {sel : ProviderSelection} {r : ProviderResponse}
    {d : Decision ResponseAction} (due : s.state.LevelsDue directory s.envelope.issuer)
    (stands : s.state = .providerSelected sel)
    (outcome : ProviderResponse.Outcome m.env s.envelope sel r d) (commits : d.next = some next) :
    next.LevelsDue directory s.envelope.issuer := by
  rw [stands] at due
  cases outcome with
  | matching _ _ succeeds =>
    cases commits
    exact due _ succeeds.acceptable
  | noContextSigningIn _ _ _ _ start =>
    obtain ⟨_, _, rfl⟩ := Environment.startState_eq_ok.mp start
    cases commits
    exact trivial
  | _ => cases commits; exact trivial

theorem levelsDue_of_country {sel : CountrySelection} {r : CountryResponse}
    {d : Decision ResponseAction} (justified : Justified id history s.state)
    (stands : s.state = .countrySelected sel)
    (outcome : Country.Outcome m.env s.envelope sel r d) (commits : d.next = some next) :
    next.LevelsDue directory s.envelope.issuer := by
  rw [stands] at justified
  cases outcome with
  | matching _ _ _ succeeds =>
    cases commits
    have acceptable := succeeds.acceptable
    rw [justified] at acceptable
    exact List.mem_singleton.mp acceptable
  | _ => cases commits; exact trivial

theorem levelsDue_of_matching {p : Matching.Pending} {r : MatchingResponse} {d : Decision Unit}
    (due : s.state.LevelsDue directory s.envelope.issuer) (waits : Matching.pending? s = some p)
    (outcome : Matching.Outcome m.env p r d) (commits : d.next = some next) :
    next.LevelsDue directory s.envelope.issuer := by
  rw [(Matching.pending?_eq_some.mp waits).2] at due
  cases outcome with
  | asksCycle3 => cases commits; exact due
  | asksAccount => cases commits; exact due
  | accountCreationFailed =>
    cases commits
    cases p.family <;> exact trivial
  | _ => cases commits; exact trivial

theorem levelsDue_of_commit {op : Operation} {d : Decision Answer}
    (here : m.env.directory = directory) (decides : Decides m.env s op d)
    (commits : d.next = some next) (justified : Justified id history s.state)
    (due : s.state.LevelsDue directory s.envelope.issuer) :
    next.LevelsDue directory s.envelope.issuer := by
  cases decides with
  | providerSelected made =>
    cases commits
    rw [← here]
    exact ProviderSelection.registers_of_selection made
  | providerAnswered stands outcome => exact levelsDue_of_provider due stands outcome commits
  | countryAnswered stands outcome => exact levelsDue_of_country justified stands outcome commits
  | matchingAnswered waits outcome => exact levelsDue_of_matching due waits outcome commits
  | cycle3Submitted asks =>
    rw [(Cycle3.asked?_eq_some.mp asks).2] at due
    cases commits
    exact due
  | restarted start =>
    obtain ⟨_, _, rfl⟩ := Environment.startState_eq_ok.mp start
    cases commits
    exact trivial
  | _ => cases commits <;> exact trivial

theorem levelsDue_step {s? s?' : Option Session} (run : Run history m.store)
    (found : m.store.get id = .ok s?) (change : Change m id s? s?')
    (due : (∀ m ∈ history, m.env.directory = directory) →
      ∀ s, s? = some s → s.state.LevelsDue directory s.envelope.issuer) :
    (∀ m' ∈ history ++ [m], m'.env.directory = directory) →
      ∀ s', s?' = some s' → s'.state.LevelsDue directory s'.envelope.issuer := by
  rintro fixed s' rfl
  have before := due fun m' member => fixed m' (List.mem_append_left _ member)
  have here := fixed m (List.mem_append_right _ (List.mem_singleton_self m))
  cases change with
  | idle => exact before s' rfl
  | opens _ opens =>
    obtain ⟨_, starts⟩ := Start.state_of_openSession opens
    rw [starts]
    exact trivial
  | expires => exact trivial
  | @commits s _ _ _ _ decides commits =>
    exact levelsDue_of_commit (s := s) here decides commits (run.justified found) (before s rfl)

end Step

/-- While the directory stays the same, a domestic journey waits for the matching service, and for
the user's cycle-3 data, with a level that the transaction is registered for, and a cross-border
one with level 2. -/
theorem run_levels_admitted {history : List Moment} {store : Store} (run : Run history store)
    {directory : Directory} (fixed : ∀ m ∈ history, m.env.directory = directory) {id : SessionId}
    {s : Session} (found : store.get id = .ok (some s)) {family : Family} {identity : Identity}
    (waits : s.state.identity? = some (family, identity)) :
    family.Admits directory s.envelope.issuer identity.level := by
  have holds : ∃ s?, store.get id = .ok s? ∧ ((∀ m ∈ history, m.env.directory = directory) →
      ∀ s, s? = some s → s.state.LevelsDue directory s.envelope.issuer) :=
    run.holds_of_run (P := fun history s? => (∀ m ∈ history, m.env.directory = directory) →
      ∀ s, s? = some s → s.state.LevelsDue directory s.envelope.issuer)
      (fun _ _ none => nomatch none) fun earlier found _ => levelsDue_step earlier found
  obtain ⟨s?, stored, due⟩ := holds
  cases Except.ok.inj (found.symm.trans stored)
  exact (due fixed s rfl).admits waits

namespace Sample

def country : Country :=
  { id := "https://country.test", code := "XX", enabled := true, ssoUrl := none }

/-- The sample's transaction, registered for level 1 alone and open to a country. -/
def abroad : Environment :=
  { env with
    directory :=
      .ofDocument
        { transactions :=
            [{ transaction with
                levels := [.one], eidasEnabled := true, eidasCountries := [country.id] }]
          providers := []
          matchingServices := [matchingService]
          countries := [country] } }

def arriving : Moment :=
  { opening with env := abroad }

def travelling : Moment :=
  ⟨abroad, arriving.reply.store, .selectCountry id country.id⟩

def returning : Moment :=
  ⟨abroad, travelling.reply.store, .countryResponse id
    { issuer := country.id
      status := .success
      statusMessage := none
      level := some .two
      persistentId := some "user"
      identityAssertion := some "identity"
      ip := "192.0.2.1" }⟩

theorem run_returning : Run [arriving, travelling, returning] returning.reply.store := by
  have arrived : Run [arriving] arriving.reply.store := .step (m := arriving) .start rfl
  have gone : Run [arriving, travelling] travelling.reply.store :=
    .step (m := travelling) arrived trivial
  exact .step (m := returning) gone trivial

theorem directory_returning :
    ∀ m ∈ [arriving, travelling, returning], m.env.directory = abroad.directory := by
  simp [arriving, travelling, returning]

end Sample

/-- The user who comes back from a country is put to the matching service with level 2. -/
theorem sample_levels_admitted :
    ∃ s request, Sample.returning.reply.store.get Sample.id = .ok (some s) ∧
      s.state = .matchRequested .eidas .cycle01 request ∧
      Family.eidas.Admits Sample.abroad.directory s.envelope.issuer request.identity.level := by
  have found : Sample.returning.reply.store.get Sample.id = .ok (some _) := rfl
  exact ⟨_, _, rfl, rfl,
    run_levels_admitted Sample.run_returning Sample.directory_returning found rfl⟩

/-- A country's user may reach the matching service with a level that the transaction is not
registered for. -/
theorem unregistered_level_of_country :
    ¬ ∀ history store, Run history store → ∀ directory,
      (∀ m ∈ history, m.env.directory = directory) → ∀ id s, store.get id = .ok (some s) →
        ∀ family identity, s.state.identity? = some (family, identity) →
          directory.Registers s.envelope.issuer identity.level := by
  intro registered
  have found : Sample.returning.reply.store.get Sample.id = .ok (some _) := rfl
  obtain ⟨t, transaction, member⟩ := registered _ _ Sample.run_returning _
    Sample.directory_returning Sample.id _ found _ _ rfl
  cases transaction
  exact absurd member (by decide)

end SignInJourney
