import SignInJourney.Directory.File

/-!
What the directory answers about one identity provider. The lists of providers go through every
entry (`mem_enabledProviders`), and every other answer is about the first entry with the id
(`isEnabledForRegistration_eq_ok`), so they agree where a document does not list an id twice
(`answers_agree`).
-/

namespace SignInJourney.Directory

variable {d : Directory} {transaction provider : String} {registering : Bool} {level : Level}

/-- The provider that goes by an id has the level. -/
def Supports (d : Directory) (provider : String) (level : Level) : Prop :=
  ∃ p, d.provider provider = .ok p ∧ level ∈ p.levels

/-- No other entry has the id of the provider that goes by it. -/
def ListsOnce (d : Directory) (provider : String) : Prop :=
  ∀ p ∈ d.providers, p.id = provider → d.provider provider = .ok p

theorem mem_levels_of_isEnabled {p : IdentityProvider}
    (enabled : p.isEnabled transaction registering level = true) : level ∈ p.levels := by
  rw [IdentityProvider.isEnabled, Bool.and_eq_true] at enabled
  exact List.contains_iff_mem.mp enabled.2

theorem mem_enabledProviders :
    provider ∈ d.enabledProviders transaction registering level ↔
      ∃ p ∈ d.providers, p.id = provider ∧ p.isEnabled transaction registering level = true := by
  simp only [enabledProviders, List.mem_map, List.mem_filter]
  constructor
  · rintro ⟨p, ⟨listed, enabled⟩, goes⟩
    exact ⟨p, listed, goes, enabled⟩
  · rintro ⟨p, listed, goes, enabled⟩
    exact ⟨p, ⟨listed, enabled⟩, goes⟩

theorem provider_eq_ok {p : IdentityProvider} :
    d.provider provider = .ok p ↔ (d.providers.find? fun p => p.id == provider) = some p := by
  unfold Directory.provider
  cases d.providers.find? fun p => p.id == provider <;> simp

theorem mem_of_provider {p : IdentityProvider} (found : d.provider provider = .ok p) :
    p ∈ d.providers ∧ p.id = provider := by
  rw [provider_eq_ok] at found
  exact ⟨List.mem_of_find?_eq_some found, by simpa using List.find?_some found⟩

theorem exists_provider {p : IdentityProvider} (listed : p ∈ d.providers)
    (goes : p.id = provider) : ∃ first, d.provider provider = .ok first := by
  cases found : d.providers.find? fun p => p.id == provider with
  | some first => exact ⟨first, provider_eq_ok.mpr found⟩
  | none =>
    rw [List.find?_eq_none] at found
    exact absurd (beq_iff_eq.mpr goes) (found p listed)

/-- The question about registrations is the one whether a user who registers may pick the entry. -/
theorem isEnabledForRegistration_eq_ok {takes : Bool} :
    d.isEnabledForRegistration provider transaction level = .ok takes ↔
      ∃ p, d.provider provider = .ok p ∧ p.isEnabled transaction true level = takes := by
  unfold isEnabledForRegistration
  cases d.provider provider with
  | error e => simp [bind, Except.bind]
  | ok p =>
    have asked : (p.enabled && p.enabledForRegistration && p.serves transaction &&
        p.levels.contains level) = p.isEnabled transaction true level := by
      simp only [IdentityProvider.isEnabled, Bool.not_true, Bool.false_or]
      ac_rfl
    simp only [bind, Except.bind, asked, Except.ok.injEq, exists_eq_left']

/-- A provider that is enabled for a level has it, if its entry is the only one. -/
theorem supports_of_listsOnce (once : d.ListsOnce provider)
    (enabled : provider ∈ d.enabledProviders transaction registering level) :
    d.Supports provider level := by
  obtain ⟨p, listed, goes, enabled⟩ := mem_enabledProviders.mp enabled
  exact ⟨p, once p listed goes, mem_levels_of_isEnabled enabled⟩

theorem mem_of_isEnabledForRegistration
    (takes : d.isEnabledForRegistration provider transaction level = .ok true) :
    provider ∈ d.enabledProviders transaction true level := by
  obtain ⟨p, found, enabled⟩ := isEnabledForRegistration_eq_ok.mp takes
  obtain ⟨listed, goes⟩ := mem_of_provider found
  exact mem_enabledProviders.mpr ⟨p, listed, goes, enabled⟩

/-- The provider that goes by an id, and an entry with the id. -/
structure HasEntries (d : Directory) (provider : String) (first p : IdentityProvider) : Prop where
  first : d.provider provider = .ok first
  listed : p ∈ d.providers
  goes : p.id = provider

/-- The answers of a directory about one provider. Taking registrations puts it on the list for
them, and being on a list makes it known. The converse, and that it has the level that it is listed
for, hold where its entry is the only one; they fail exactly where the first entry with its id lacks
what a later one has. -/
structure AnswersAgree (d : Directory) (transaction provider : String) (level : Level) : Prop where
  listed : d.isEnabledForRegistration provider transaction level = .ok true →
    provider ∈ d.enabledProviders transaction true level
  known : ∀ registering, provider ∈ d.enabledProviders transaction registering level →
    ∃ p, d.provider provider = .ok p
  registrations : d.ListsOnce provider →
    (provider ∈ d.enabledProviders transaction true level ↔
      d.isEnabledForRegistration provider transaction level = .ok true)
  levels : d.ListsOnce provider → ∀ registering,
    provider ∈ d.enabledProviders transaction registering level → d.Supports provider level
  noRegistrations : (provider ∈ d.enabledProviders transaction true level ∧
      d.isEnabledForRegistration provider transaction level ≠ .ok true) ↔
    ∃ first p, d.HasEntries provider first p ∧ first.isEnabled transaction true level = false ∧
      p.isEnabled transaction true level = true
  noLevel : ∀ registering,
    (provider ∈ d.enabledProviders transaction registering level ∧ ¬ d.Supports provider level) ↔
      ∃ first p, d.HasEntries provider first p ∧ level ∉ first.levels ∧
        p.isEnabled transaction registering level = true

/-- A list and an answer about one provider come apart only over a provider that is listed twice. -/
theorem answers_agree (document : DirectoryDocument) (transaction provider : String)
    (level : Level) : (ofDocument document).AnswersAgree transaction provider level where
  listed := mem_of_isEnabledForRegistration
  known registering enabled := by
    obtain ⟨p, listed, goes, _⟩ := mem_enabledProviders.mp enabled
    exact exists_provider listed goes
  registrations once := by
    refine ⟨fun enabled => ?_, mem_of_isEnabledForRegistration⟩
    obtain ⟨p, listed, goes, enabled⟩ := mem_enabledProviders.mp enabled
    exact isEnabledForRegistration_eq_ok.mpr ⟨p, once p listed goes, enabled⟩
  levels once registering := supports_of_listsOnce once
  noRegistrations := by
    constructor
    · rintro ⟨enabled, takesNone⟩
      obtain ⟨p, listed, goes, enabled⟩ := mem_enabledProviders.mp enabled
      obtain ⟨first, found⟩ := exists_provider listed goes
      refine ⟨first, p, ⟨found, listed, goes⟩, ?_, enabled⟩
      rw [← Bool.not_eq_true]
      intro takes
      exact takesNone (isEnabledForRegistration_eq_ok.mpr ⟨first, found, takes⟩)
    · rintro ⟨first, p, entries, takesNone, enabled⟩
      refine ⟨mem_enabledProviders.mpr ⟨p, entries.listed, entries.goes, enabled⟩, fun takes => ?_⟩
      obtain ⟨first', found, takes⟩ := isEnabledForRegistration_eq_ok.mp takes
      cases entries.first.symm.trans found
      rw [takes] at takesNone
      cases takesNone
  noLevel registering := by
    constructor
    · rintro ⟨enabled, unsupported⟩
      obtain ⟨p, listed, goes, enabled⟩ := mem_enabledProviders.mp enabled
      obtain ⟨first, found⟩ := exists_provider listed goes
      exact ⟨first, p, ⟨found, listed, goes⟩, fun has => unsupported ⟨first, found, has⟩, enabled⟩
    · rintro ⟨first, p, entries, lacks, enabled⟩
      refine ⟨mem_enabledProviders.mpr ⟨p, entries.listed, entries.goes, enabled⟩, ?_⟩
      rintro ⟨first', found, has⟩
      cases entries.first.symm.trans found
      exact lacks has

/-- A file that has two entries for one provider, of which only the second has level 2. -/
def twice : String :=
  "\x7b\"identity_providers\":[" ++
    "\x7b\"entity_id\":\"idp\",\"supported_levels_of_assurance\":[\"LEVEL_1\"]\x7d," ++
    "\x7b\"entity_id\":\"idp\",\"supported_levels_of_assurance\":[\"LEVEL_2\"]\x7d]\x7d"

theorem ofFile_twice :
    ∃ d, ofFile "directory.json" (some twice) = .ok d ∧ "idp" ∈ d.enabledProviders "rp" true .two ∧
      (d.isEnabledForRegistration "idp" "rp" .two).toOption = some false := by
  have read : (ofFile "directory.json" (some twice)).toOption.any (fun d =>
      "idp" ∈ d.enabledProviders "rp" true .two ∧
        (d.isEnabledForRegistration "idp" "rp" .two).toOption = some false) = true := by
    decide +kernel
  cases reads : ofFile "directory.json" (some twice) with
  | error e =>
    rw [reads] at read
    cases read
  | ok d =>
    rw [reads] at read
    exact ⟨d, rfl, of_decide_eq_true read⟩

/-- The answers of a directory that is read from a file need not agree. -/
theorem answers_divided :
    ¬ ∀ (path text : String) (d : Directory), ofFile path (some text) = .ok d →
      ∀ transaction provider level,
        (provider ∈ d.enabledProviders transaction true level ↔
          d.isEnabledForRegistration provider transaction level = .ok true) ∧
        ∀ registering, provider ∈ d.enabledProviders transaction registering level →
          d.Supports provider level := by
  intro claim
  obtain ⟨d, reads, listed, takesNone⟩ := ofFile_twice
  have takes := ((claim _ _ d reads "rp" "idp" .two).1).mp listed
  rw [takes] at takesNone
  cases takesNone

end SignInJourney.Directory
