import SignInJourney.Proofs.Service.Levels

/-!
The way into the cross-border journey. Its states name a country (`State.country?`), and no handler
brings a country in but the one by which the user picks it, when it is open to the users of the
transaction (`Decides.names_country`). Whether the transaction is marked as supporting eIDAS has no
part in it.
-/

namespace SignInJourney

open Service Journey

/-- Only on a cross-border journey is the party that authenticates the user a country. -/
def Family.country? (party : String) : Family → Option String
  | .domestic => none
  | .eidas => some party

/-- The country that a cross-border journey goes through. -/
def State.country? : State → Option String
  | .countrySelected sel => some sel.country
  | .countryAuthnFailed country _ | .eidasAccountCreationFailed country => some country
  | .matchRequested family _ request => family.country? request.identity.provider
  | .awaitingCycle3 family identity => family.country? identity.provider
  | .matched family outcome => family.country? outcome.provider
  | _ => none

theorem State.isSome_country? (state : State) : state.country?.isSome = state.isEidas := by
  cases state with
  | matchRequested family => cases family <;> rfl
  | awaitingCycle3 family => cases family <;> rfl
  | matched family => cases family <;> rfl
  | _ => rfl

/-- The user picks a country that is open to the users of the transaction, and it is taken. -/
structure Moment.Picks (m : Moment) (id : SessionId) (transaction country : String) : Prop where
  operation : m.operation = .selectCountry id country
  accepted : m.reply.result = .ok .done
  enabled : Country.Enabled m.env transaction country

section Step

variable {env : Environment} {s : Session} {op : Operation} {next : State} {country : String}

theorem country_of_provider {sel : ProviderSelection} {r : ProviderResponse}
    {d : Decision ResponseAction} (outcome : ProviderResponse.Outcome env s.envelope sel r d)
    (commits : d.next = some next) : next.country? = none := by
  cases outcome with
  | noContextSigningIn _ _ _ _ start =>
    obtain ⟨_, _, rfl⟩ := Environment.startState_eq_ok.mp start
    cases commits
    rfl
  | _ => cases commits; rfl

theorem country_of_country {sel : CountrySelection} {r : CountryResponse}
    {d : Decision ResponseAction} (outcome : Country.Outcome env s.envelope sel r d)
    (commits : d.next = some next) (names : next.country? = some country) :
    sel.country = country := by
  cases outcome with
  | matching =>
    cases commits
    exact Option.some.inj names
  | nonMatching =>
    cases commits
    cases names
  | authnFailed =>
    cases commits
    exact Option.some.inj names

theorem country_of_matching {p : Matching.Pending} {r : MatchingResponse} {d : Decision Unit}
    (outcome : Matching.Outcome env p r d) (commits : d.next = some next)
    (names : next.country? = some country) :
    p.family.country? p.identity.provider = some country := by
  cases outcome with
  | matched => cases commits; exact names
  | asksCycle3 => cases commits; exact names
  | asksAccount => cases commits; exact names
  | accountCreationFailed =>
    cases commits
    cases family : p.family with
    | domestic =>
      rw [family] at names
      cases names
    | eidas =>
      rw [family] at names
      exact names
  | _ => cases commits; cases names

/-- A country is named by nothing but picking it, and then the journey keeps it. -/
theorem Service.Decides.names_country {d : Decision Answer} (decides : Decides env s op d)
    (commits : d.next = some next) (names : next.country? = some country) :
    s.state.country? = some country ∨
      (∃ id, op = .selectCountry id country) ∧ d.answer = .done ∧
        Country.Enabled env s.envelope.issuer country := by
  cases decides with
  | countrySelected enabled =>
    cases commits
    cases names
    exact .inr ⟨⟨_, rfl⟩, rfl, enabled⟩
  | countryAnswered stands outcome =>
    rw [stands]
    exact .inl (congrArg some (country_of_country outcome commits names))
  | providerAnswered _ outcome =>
    rw [country_of_provider outcome commits] at names
    cases names
  | matchingAnswered waits outcome =>
    rw [(Matching.pending?_eq_some.mp waits).2]
    exact .inl (country_of_matching outcome commits names)
  | cycle3Submitted asks =>
    rw [(Cycle3.asked?_eq_some.mp asks).2]
    cases commits
    exact .inl names
  | restarted start =>
    obtain ⟨_, _, rfl⟩ := Environment.startState_eq_ok.mp start
    cases commits
    cases names
  | _ => cases commits <;> cases names

end Step

/-- The country that a session names has been picked. -/
def Picked (id : SessionId) (history : List Moment) (s : Session) : Prop :=
  ∀ country, s.state.country? = some country → ∃ m ∈ history, m.Picks id s.envelope.issuer country

section Histories

variable {id : SessionId} {history : List Moment} {s : Session}

theorem Picked.append (picked : Picked id history s) (m : Moment) :
    Picked id (history ++ [m]) s := by
  intro country names
  obtain ⟨earlier, member, picks⟩ := picked country names
  exact ⟨earlier, List.mem_append_left _ member, picks⟩

theorem picked_of_none (nowhere : s.state.country? = none) : Picked id history s := by
  intro country names
  rw [nowhere] at names
  cases names

theorem picked_of_commit {m : Moment} {d : Decision Answer} {next : State}
    (h : m.Commits id s d next) (picked : Picked id history s) :
    Picked id (history ++ [m]) (s.withState next) := by
  intro country names
  rcases h.decides.names_country h.commits names with before | ⟨⟨id', operation⟩, answers, enabled⟩
  · exact picked.append m country before
  · have same : id' = id := by
      have on := h.on
      rw [operation] at on
      exact on
    have accepted : m.reply.result = .ok .done := by
      rw [h.result, answers]
    subst same
    exact ⟨m, List.mem_append_right _ (List.mem_singleton_self m), operation, accepted, enabled⟩

end Histories

/-- A session is on the cross-border journey only since its user picked the country that it goes
through, which was enabled at that moment and open to the users of the session's transaction. -/
theorem run_country_picked {history : List Moment} {store : Store} (run : Run history store)
    {id : SessionId} {s : Session} (found : store.get id = .ok (some s))
    (abroad : s.state.isEidas = true) :
    ∃ country, s.state.country? = some country ∧
      ∃ m ∈ history, m.Picks id s.envelope.issuer country := by
  have picked : Picked id history s := by
    apply run.invariant Picked.append ?_ ?_ picked_of_commit found
    · intro _ _ _ stands
      exact picked_of_none (by rw [stands]; rfl)
    · intro _ _ stands
      exact picked_of_none (by rw [stands]; rfl)
  rw [← State.isSome_country?, Option.isSome_iff_exists] at abroad
  obtain ⟨country, names⟩ := abroad
  exact ⟨country, names, picked country names⟩

/-- The user who comes back from a country has picked it before. -/
theorem sample_country_picked :
    ∃ m ∈ [Sample.arriving, Sample.travelling, Sample.returning],
      m.Picks Sample.id Sample.transaction.id Sample.country.id := by
  have found : Sample.returning.reply.store.get Sample.id = .ok (some _) := rfl
  obtain ⟨_, ⟨⟩, picked⟩ := run_country_picked Sample.run_returning found rfl
  exact picked

namespace Sample

/-- The sample's transaction does not support eIDAS, and has a country on its list all the same. -/
def unsupported : Environment :=
  { env with
    directory :=
      .ofDocument
        { transactions := [{ transaction with eidasCountries := [country.id] }]
          providers := []
          matchingServices := [matchingService]
          countries := [country] } }

def entering : Moment :=
  { opening with env := unsupported }

def picking : Moment :=
  ⟨unsupported, entering.reply.store, .selectCountry id country.id⟩

theorem run_picking : Run [entering, picking] picking.reply.store := by
  have entered : Run [entering] entering.reply.store := .step (m := entering) .start rfl
  exact .step (m := picking) entered trivial

end Sample

/-- A session may be on the cross-border journey although its transaction does not support eIDAS. -/
theorem eidas_without_support :
    ¬ ∀ history store, Run history store → ∀ id s, store.get id = .ok (some s) →
      s.envelope.supportsEidas = false → s.state.isEidas = false := by
  intro domestic
  have found : Sample.picking.reply.store.get Sample.id = .ok (some _) := rfl
  have stays := domestic _ _ Sample.run_picking Sample.id _ found rfl
  exact Bool.noConfusion stays

end SignInJourney
