import SignInJourney.Journey.Country
import SignInJourney.Proofs.Journey.Checks
import SignInJourney.Proofs.Journey.Conduct

/-!
The cross-border journey as relations: what it takes to pick a country (`select_eq_ok`), and what
the country's answer leads to (`Outcome`, `outcome_of_handle`).
-/

namespace SignInJourney.Journey.Country

variable {env : Environment} {envelope : Envelope} {sel : CountrySelection} {r : CountryResponse}

/-- Users of a transaction may pick a country, or come back from it. -/
def Enabled (env : Environment) (transaction country : String) : Prop :=
  ∃ countries, env.directory.countriesFor transaction = .ok countries ∧
    ∃ c ∈ countries, c.id = country

theorem checkEnabled_eq_ok {transaction country : String} {u : Unit} :
    checkEnabled env transaction country = .ok u ↔ Enabled env transaction country := by
  simp only [checkEnabled, bind_eq_ok, Failure.ofDirectory_eq_ok, Enabled]
  refine exists_congr fun countries => and_congr_right fun _ => ?_
  split
  · rename_i listed
    simpa using listed
  · rename_i unlisted
    simpa [throw, throwThe, MonadExceptOf.throw] using unlisted

theorem checkEnabled_of_not_enabled {transaction country : String}
    (disabled : ¬ Enabled env transaction country) :
    ∃ refusal, checkEnabled env transaction country = .error (.refused refusal) := by
  unfold checkEnabled
  cases listed : env.directory.countriesFor transaction with
  | error e => exact ⟨_, rfl⟩
  | ok countries =>
    have unlisted : ¬ (countries.any fun c => c.id == country) = true := by
      intro any
      exact disabled ⟨countries, listed, by simpa using any⟩
    simp only [Failure.ofDirectory, bind, Except.bind, if_neg unlisted]
    exact ⟨_, rfl⟩

/-- The selection of a country for a session. -/
def selection (s : Session) (country : String) (service : Option String) : CountrySelection :=
  { country := country, levels := selectionLevels s.state, matchingService := service }

theorem select_eq_ok {s : Session} {country : String} {d : Decision Unit} :
    (select env s country).decision = .ok d ↔
      Enabled env s.envelope.issuer country ∧
        ∃ service, env.matchingServiceFor s.envelope.issuer = .ok service ∧
          d = .commit () (.countrySelected (selection s country service))
            [.occurrence s.envelope (.countrySelected country)] := by
  simp only [select, Conduct.decision_check, bind_eq_ok, checkEnabled_eq_ok, selection]
  constructor
  · rintro ⟨_, enabled, service, bound, h⟩
    cases h
    exact ⟨enabled, service, bound, rfl⟩
  · rintro ⟨enabled, service, bound, rfl⟩
    exact ⟨(), enabled, service, bound, rfl⟩

/-- The request for the country, and that it is fetched. -/
def fetched (env : Environment) (envelope : Envelope) (sel : CountrySelection) :
    Decision HubRequest :=
  { answer := hubRequest env envelope sel
    reports := [.requestFetched envelope.sessionId envelope.issuer] }

theorem decision_request : (request env envelope sel).decision = .ok (fetched env envelope sel) :=
  rfl

/-- Everything that a successful answer is checked for, once the country is. -/
structure Succeeds (sel : CountrySelection) (r : CountryResponse) (a : Assertion) : Prop where
  persistentId : r.persistentId = some a.persistentId
  identity : r.identityAssertion = some a.identity
  level : r.level = some a.achieved
  acceptable : a.achieved ∈ sel.levels

theorem checkSuccess_eq_ok {a : Assertion} :
    checkSuccess envelope sel r = .ok a ↔ Succeeds sel r a := by
  simp only [checkSuccess, bind_eq_ok, Failure.ofInvalidity_eq_ok, Check.mandatory_eq_ok,
    Check.levelIn_eq_ok]
  constructor
  · rintro ⟨persistentId, hp, identity, hi, achieved, ⟨level, acceptable⟩, h⟩
    cases h
    exact ⟨hp, hi, level, acceptable⟩
  · rintro ⟨hp, hi, level, acceptable⟩
    exact ⟨_, hp, _, hi, _, ⟨level, acceptable⟩, rfl⟩

/-- A success is reported as one of the session, if at all. -/
theorem mem_successReport {a : Assertion} {report : Report}
    (reported : report ∈ successReport envelope sel r a) :
    ∃ success, report = .occurrence envelope (.authnSucceeded success) := by
  unfold successReport at reported
  split at reported
  · exact ⟨_, List.mem_singleton.mp reported⟩
  · cases reported

/-- The identity that a success makes of the user. -/
def identity (sel : CountrySelection) (a : Assertion) (service : String) : Identity :=
  { provider := sel.country
    level := a.achieved
    matchingService := service
    registering := false
    assertions := .eidas a.identity a.persistentId }

/-- What is decided about an answer. -/
inductive Outcome (env : Environment) (envelope : Envelope) (sel : CountrySelection)
    (r : CountryResponse) : Decision ResponseAction → Prop
  | matching {a : Assertion} {t : Transaction} {service : String} {query : AttributeQuery}
      (enabled : Enabled env envelope.issuer sel.country) (issuer : r.issuer = sel.country)
      (status : r.status = .success) (succeeds : Succeeds sel r a)
      (transaction : env.directory.transaction envelope.issuer = .ok t)
      (usesMatching : t.usingMatching = true)
      (bound : matchingService env envelope sel = .ok service)
      (asks : env.query .cycle01 envelope (identity sel a service) = .ok query) :
      Outcome env envelope sel r
        (.ask (.success envelope.sessionId false a.achieved)
          (.matchRequested .eidas .cycle01
            { identity := identity sel a service, sentAt := env.now, cycle3Dataset := none })
          (successReport envelope sel r a) query)
  | nonMatching {a : Assertion} {t : Transaction}
      (enabled : Enabled env envelope.issuer sel.country) (issuer : r.issuer = sel.country)
      (status : r.status = .success) (succeeds : Succeeds sel r a)
      (transaction : env.directory.transaction envelope.issuer = .ok t)
      (noMatching : t.usingMatching = false) :
      Outcome env envelope sel r
        (.commit (.nonMatchingJourneySuccess envelope.sessionId false a.achieved)
          (.nonMatchingSuccess [a.identity]) (successReport envelope sel r a))
  | authnFailed (enabled : Enabled env envelope.issuer sel.country)
      (issuer : r.issuer = sel.country) (status : r.status ≠ .success) :
      Outcome env envelope sel r
        (.commit (.other envelope.sessionId false) (.countryAuthnFailed sel.country sel.levels)
          [.occurrence envelope (.authnFailed r.ip)])

theorem outcome_of_succeed {d : Decision ResponseAction}
    (enabled : Enabled env envelope.issuer sel.country) (issuer : r.issuer = sel.country)
    (status : r.status = .success) (h : (succeed env envelope sel r).decision = .ok d) :
    Outcome env envelope sel r d := by
  simp only [succeed, Conduct.decision_check, Conduct.decision_ite, Conduct.decision_ask,
    Conduct.decision_commit, bind_eq_ok, checkSuccess_eq_ok, Failure.ofDirectory_eq_ok] at h
  obtain ⟨a, succeeds, t, transaction, h⟩ := h
  split at h
  · rename_i usesMatching
    simp only [bind_eq_ok] at h
    obtain ⟨service, bound, query, asks, h⟩ := h
    cases h
    exact .matching enabled issuer status succeeds transaction usesMatching bound asks
  · rename_i noMatching
    cases h
    exact .nonMatching enabled issuer status succeeds transaction (Bool.not_eq_true _ ▸ noMatching)

theorem outcome_of_handle {d : Decision ResponseAction}
    (h : (handle env envelope sel r).decision = .ok d) : Outcome env envelope sel r d := by
  simp only [handle, Conduct.decision_check, bind_eq_ok, checkEnabled_eq_ok,
    Failure.ofInvalidity_eq_ok, Check.issuer_eq_ok] at h
  obtain ⟨_, enabled, _, issuer, h⟩ := h
  split at h
  · rename_i status
    exact outcome_of_succeed enabled issuer status h
  all_goals
    rename_i status
    cases h
    exact .authnFailed enabled issuer (by simp [status])

/-- Whatever else it says, an answer that is not the selected country's, or comes while the country
is disabled, is refused. -/
theorem handle_of_stranger
    (stranger : ¬ (Enabled env envelope.issuer sel.country ∧ r.issuer = sel.country)) :
    ∃ refusal, (handle env envelope sel r).decision = .error (.refused refusal) := by
  by_cases enabled : Enabled env envelope.issuer sel.country
  · have other : r.issuer ≠ sel.country := fun issuer => stranger ⟨enabled, issuer⟩
    have checked : checkEnabled env envelope.issuer sel.country = .ok () :=
      checkEnabled_eq_ok.mpr enabled
    simp only [handle, checked, Check.issuer, if_neg other]
    exact ⟨_, rfl⟩
  · obtain ⟨refusal, refused⟩ := checkEnabled_of_not_enabled enabled
    simp only [handle, refused]
    exact ⟨refusal, rfl⟩

/-- Beyond the checks of its party, a success is judged by what it asserts alone. -/
theorem handle_of_success (enabled : Enabled env envelope.issuer sel.country)
    (issuer : r.issuer = sel.country) (status : r.status = .success) :
    handle env envelope sel r = succeed env envelope sel r := by
  have checked : checkEnabled env envelope.issuer sel.country = .ok () :=
    checkEnabled_eq_ok.mpr enabled
  simp only [handle, checked, Check.issuer, issuer, if_true, status]
  rfl

/-- A success that passes every check is taken, if the matching service can be asked where the
transaction uses one. -/
theorem succeed_of_succeeds {a : Assertion} {t : Transaction} (succeeds : Succeeds sel r a)
    (transaction : env.directory.transaction envelope.issuer = .ok t)
    (ready : t.usingMatching = true →
      ∃ service, matchingService env envelope sel = .ok service ∧ env.CanAsk service) :
    ∃ d, (succeed env envelope sel r).decision = .ok d := by
  have checked : checkSuccess envelope sel r = .ok a := checkSuccess_eq_ok.mpr succeeds
  simp only [succeed, Conduct.decision_check, Conduct.decision_ite, bind_eq_ok,
    Failure.ofDirectory_eq_ok, checked, transaction, Except.ok.injEq, exists_eq_left']
  cases usesMatching : t.usingMatching with
  | false => exact ⟨_, rfl⟩
  | true =>
    obtain ⟨service, bound, can⟩ := ready usesMatching
    have asks : ∃ q, env.query .cycle01 envelope (identity sel a service) = .ok q :=
      Environment.CanAsk.query can
    obtain ⟨q, asks⟩ := asks
    simp only [if_true, bind_eq_ok, bound, Except.ok.injEq, exists_eq_left']
    exact ⟨_, q, asks, Conduct.decision_ask _ _ _ _⟩

/-- A success with a level that the country was not asked for is invalid. -/
theorem succeed_of_unacceptable {level : Level} (persistentId : r.persistentId.isSome)
    (asserted : r.identityAssertion.isSome) (given : r.level = some level)
    (unacceptable : level ∉ sel.levels) :
    ∃ cause, (succeed env envelope sel r).decision = .error (.refused (.invalid cause)) := by
  obtain ⟨pid, persistentId⟩ := Option.isSome_iff_exists.mp persistentId
  obtain ⟨assertion, asserted⟩ := Option.isSome_iff_exists.mp asserted
  obtain ⟨cause, refused⟩ := Check.levelIn_of_not_mem unacceptable
  refine ⟨cause, ?_⟩
  simp only [succeed, checkSuccess, persistentId, asserted, given, refused]
  rfl

end SignInJourney.Journey.Country
