import SignInJourney.Journey.ProviderSelection
import SignInJourney.Proofs.Journey.Checks

/-!
Picking an identity provider: what it takes (`selection_eq_ok`), and the levels that a selection
has, as they come from the transaction's and the provider's (`mem_deliverable`, then
`mem_requestedFirst` and `head?_requestedFirst`).
-/

namespace SignInJourney

namespace Environment

/-- A selection is bound to a matching service where its transaction uses matching, and only there.
-/
theorem isSome_of_matchingServiceFor {env : Environment} {transaction : String}
    {service : Option String} (bound : env.matchingServiceFor transaction = .ok service) :
    ∃ t, env.directory.transaction transaction = .ok t ∧ service.isSome = t.usingMatching := by
  simp only [matchingServiceFor, bind_eq_ok, Failure.ofDirectory_eq_ok] at bound
  obtain ⟨t, found, bound⟩ := bound
  refine ⟨t, found, ?_⟩
  split at bound
  · rename_i usesMatching
    obtain ⟨id, _, rfl⟩ := map_eq_ok.mp bound
    exact usesMatching.symm
  · rename_i noMatching
    cases bound
    exact (Bool.not_eq_true _ ▸ noMatching).symm

end Environment

namespace Journey.ProviderSelection

section Levels

variable {levels offered registered : List Level} {requested level : Level}
  {takesRegistrations : Bool}

theorem mem_requestedFirst : level ∈ requestedFirst levels requested ↔ level ∈ levels := by
  by_cases same : level = requested
  · subst same
    by_cases member : level ∈ levels <;> simp [requestedFirst, member]
  · by_cases member : requested ∈ levels <;> simp [requestedFirst, member, same]

theorem head?_requestedFirst (member : requested ∈ levels) :
    (requestedFirst levels requested).head? = some requested := by
  simp [requestedFirst, member]

theorem requestedFirst_singleton : requestedFirst [level] requested = [level] := by
  by_cases same : level = requested
  · simp [requestedFirst, same]
  · simp [requestedFirst, same, Ne.symm same]

theorem tail_requestedFirst_sublist : (requestedFirst levels requested).tail.Sublist levels := by
  unfold requestedFirst
  split
  · exact List.filter_sublist
  · exact (List.tail_sublist _).trans List.filter_sublist

theorem deliverable_sublist :
    (deliverable takesRegistrations offered registered).Sublist registered := by
  unfold deliverable
  dsimp only
  split
  · -- Level 2 alone is left of level 2 and then level 1.
    rename_i both
    simp only [Bool.and_eq_true, beq_iff_eq] at both
    rw [both.2]
    exact List.filter_sublist.trans (List.sublist_append_left [Level.two] [Level.one])
  · exact List.filter_sublist

theorem mem_of_mem_deliverable
    (member : level ∈ deliverable takesRegistrations offered registered) :
    level ∈ registered ∧ level ∈ offered :=
  ⟨deliverable_sublist.subset member, List.contains_iff_mem.mp (List.mem_filter.mp member).2⟩

/-- A level that the transaction and the provider both have is delivered, unless it is left out of
level 2 and then level 1. -/
theorem mem_deliverable (inTransaction : level ∈ registered) (inProvider : level ∈ offered)
    (taken : takesRegistrations = false ∧ registered = [.two, .one] → level ≠ .one) :
    level ∈ deliverable takesRegistrations offered registered := by
  refine List.mem_filter.mpr ⟨?_, List.contains_iff_mem.mpr inProvider⟩
  split
  · rename_i both
    simp only [Bool.and_eq_true, Bool.not_eq_true', beq_iff_eq] at both
    rw [both.2] at inTransaction
    simpa [taken both] using inTransaction
  · exact inTransaction

theorem deliverable_two_one (two : Level.two ∈ offered) :
    deliverable false offered [.two, .one] = [.two] := by
  simp [deliverable, two]

end Levels

variable {env : Environment} {s : Session} {choice : ProviderChoice}

/-- The provider can be picked, and what it has to do with the selection: the transaction, the
provider's entry, whether it takes registrations, and the matching service. -/
structure Pickable (env : Environment) (s : Session) (choice : ProviderChoice) (t : Transaction)
    (p : IdentityProvider) (takesRegistrations : Bool) (service : Option String) : Prop where
  transaction : env.directory.transaction s.envelope.issuer = .ok t
  registered : choice.requested ∈ t.levels
  available : choice.provider ∈
    env.directory.enabledProviders s.envelope.issuer choice.registering choice.requested
  provider : env.directory.provider choice.provider = .ok p
  registrations : env.directory.isEnabledForRegistration choice.provider s.envelope.issuer
    choice.requested = .ok takesRegistrations
  bound : env.matchingServiceFor s.envelope.issuer = .ok service

theorem selection_eq_ok {selected : ProviderSelection} :
    selection env s choice = .ok selected ↔
      ∃ t p takesRegistrations service, Pickable env s choice t p takesRegistrations service ∧
        selected =
          { provider := choice.provider
            matchingService := service
            levels := requestedFirst (deliverable takesRegistrations p.levels t.levels)
              choice.requested
            exactComparison := p.exactComparison
            registering := choice.registering
            requested := choice.requested
            available := env.directory.enabledProviders s.envelope.issuer choice.registering
              choice.requested } := by
  simp only [selection, bind_eq_ok, Failure.ofDirectory_eq_ok]
  constructor
  · rintro ⟨t, transaction, h⟩
    split at h
    · cases h
    rename_i registered
    split at h
    · cases h
    rename_i available
    simp only [bind_eq_ok, Failure.ofDirectory_eq_ok, Except.ok.injEq] at h
    obtain ⟨p, provider, takes, registrations, service, bound, rfl⟩ := h
    exact ⟨t, p, takes, service, ⟨transaction, Decidable.not_not.mp registered,
      Decidable.not_not.mp available, provider, registrations, bound⟩, rfl⟩
  · rintro ⟨t, p, takes, service, pickable, rfl⟩
    refine ⟨t, pickable.transaction, ?_⟩
    simp [pickable.registered, pickable.available, pickable.provider, pickable.registrations,
      pickable.bound, bind_eq_ok]

end Journey.ProviderSelection

end SignInJourney
