import SignInJourney.Journey.ProviderResponse
import SignInJourney.Proofs.Journey.Checks
import SignInJourney.Proofs.Journey.Conduct

/-!
What an identity provider's answer leads to, as a relation: `Outcome` has a case for each way on,
with everything that has been checked on it, and whatever `handle` decides is one of them
(`outcome_of_handle`).
-/

namespace SignInJourney.Journey.ProviderResponse

variable {env : Environment} {envelope : Envelope} {sel : ProviderSelection} {r : ProviderResponse}

/-- The request for the provider, and that it is fetched. -/
def fetched (envelope : Envelope) (sel : ProviderSelection) : Decision HubRequest :=
  { answer := hubRequest envelope sel
    reports := [.requestFetched envelope.sessionId envelope.issuer] }

theorem decision_request : (request envelope sel).decision = .ok (fetched envelope sel) :=
  rfl

/-- The answer comes from the selected provider, which is enabled for a level. -/
structure Admitted (env : Environment) (envelope : Envelope) (sel : ProviderSelection)
    (r : ProviderResponse) (level : Level) : Prop where
  enabled : r.issuer ∈ env.directory.enabledProviders envelope.issuer sel.registering level
  issuer : r.issuer = sel.provider

theorem checkIssuer_eq_ok {level : Level} {u : Unit} :
    checkIssuer env envelope sel r.issuer level = .ok u ↔ Admitted env envelope sel r level := by
  unfold checkIssuer
  split
  · rename_i enabled
    rw [Failure.ofInvalidity_eq_ok, Check.issuer_eq_ok]
    exact ⟨fun issuer => ⟨enabled, issuer⟩, Admitted.issuer⟩
  · rename_i disabled
    simp only [reduceCtorEq, false_iff]
    exact fun admitted => disabled admitted.enabled

theorem checkIssuer_of_not_admitted {level : Level}
    (stranger : ¬ Admitted env envelope sel r level) :
    ∃ refusal, checkIssuer env envelope sel r.issuer level = .error (.refused refusal) := by
  unfold checkIssuer
  split
  · rename_i enabled
    have other : r.issuer ≠ sel.provider := fun issuer => stranger ⟨enabled, issuer⟩
    rw [Check.issuer, if_neg other]
    exact ⟨_, rfl⟩
  · exact ⟨_, rfl⟩

/-- Everything that a successful answer is checked for. -/
structure Succeeds (env : Environment) (envelope : Envelope) (sel : ProviderSelection)
    (r : ProviderResponse) (a : Assertion) : Prop where
  admitted : Admitted env envelope sel r sel.requested
  level : r.level = some a.achieved
  acceptable : a.achieved ∈ sel.levels
  offered : ∃ p, env.directory.provider r.issuer = .ok p ∧ a.achieved ∈ p.levels
  persistentId : r.persistentId = some a.persistentId
  matchingDataset : r.matchingDataset = some a.matchingDataset
  authnStatement : r.authnStatement = some a.authnStatement

theorem checkSuccess_eq_ok {a : Assertion} :
    checkSuccess env envelope sel r = .ok a ↔ Succeeds env envelope sel r a := by
  simp only [checkSuccess, bind_eq_ok, checkIssuer_eq_ok, Failure.ofInvalidity_eq_ok,
    Failure.ofDirectory_eq_ok, Check.levelIn_eq_ok]
  constructor
  · rintro ⟨_, admitted, achieved, ⟨level, acceptable⟩, p, provider, h⟩
    split at h
    · cases h
    · rename_i offered
      simp only [bind_eq_ok, Failure.ofInvalidity_eq_ok, Check.mandatory_eq_ok] at h
      obtain ⟨persistentId, hp, dataset, hd, statement, hs, h⟩ := h
      cases h
      exact ⟨admitted, level, acceptable, ⟨p, provider, Decidable.not_not.mp offered⟩, hp, hd, hs⟩
  · rintro ⟨admitted, level, acceptable, ⟨p, provider, offered⟩, hp, hd, hs⟩
    refine ⟨(), admitted, a.achieved, ⟨level, acceptable⟩, p, provider, ?_⟩
    simp [offered, hp, hd, hs, bind_eq_ok]

/-- A success is reported as one of the session, if at all. -/
theorem mem_successReport {a : Assertion} {report : Report}
    (reported : report ∈ successReport envelope sel r a) :
    ∃ success, report = .occurrence envelope (.authnSucceeded success) := by
  unfold successReport at reported
  split at reported
  · exact ⟨_, List.mem_singleton.mp reported⟩
  · cases reported

/-- The identity that a success makes of the user. -/
def identity (sel : ProviderSelection) (r : ProviderResponse) (a : Assertion) (service : String) :
    Identity :=
  { provider := r.issuer
    level := a.achieved
    matchingService := service
    registering := sel.registering
    assertions := .domestic a.matchingDataset a.authnStatement a.persistentId }

/-- The statuses of an attempt that ends without a context, and what the front end does about each.
-/
inductive WithoutContext (session : SessionId) (registering : Bool) :
    ProviderStatus → ResponseAction → Prop
  | noContext :
    WithoutContext session registering .noAuthenticationContext (.other session registering)
  | cancelled :
    WithoutContext session registering .authenticationCancelled (.cancel session registering)
  | upliftFailed :
    WithoutContext session registering .upliftFailed (.failedUplift session registering)

/-- What is decided about an answer. -/
inductive Outcome (env : Environment) (envelope : Envelope) (sel : ProviderSelection)
    (r : ProviderResponse) : Decision ResponseAction → Prop
  | matching {a : Assertion} {t : Transaction} {service : String} {query : AttributeQuery}
      (genuine : r.isFraudulent = false) (status : r.status = .success)
      (succeeds : Succeeds env envelope sel r a)
      (transaction : env.directory.transaction envelope.issuer = .ok t)
      (usesMatching : t.usingMatching = true)
      (bound : matchingService env envelope sel = .ok service)
      (asks : env.query .cycle01 envelope (identity sel r a service) = .ok query) :
      Outcome env envelope sel r
        (.ask (.matchingJourneySuccess envelope.sessionId sel.registering a.achieved)
          (.matchRequested .domestic .cycle01
            { identity := identity sel r a service, sentAt := env.now, cycle3Dataset := none })
          (successReport envelope sel r a) query)
  | nonMatching {a : Assertion} {t : Transaction}
      (genuine : r.isFraudulent = false) (status : r.status = .success)
      (succeeds : Succeeds env envelope sel r a)
      (transaction : env.directory.transaction envelope.issuer = .ok t)
      (noMatching : t.usingMatching = false) :
      Outcome env envelope sel r
        (.commit (.nonMatchingJourneySuccess envelope.sessionId sel.registering a.achieved)
          (.nonMatchingSuccess [a.matchingDataset, a.authnStatement])
          (successReport envelope sel r a))
  | noContextRegistering {action : ResponseAction} (genuine : r.isFraudulent = false)
      (status : WithoutContext envelope.sessionId sel.registering r.status action)
      (admitted : Admitted env envelope sel r sel.requested)
      (registering : sel.registering = true) :
      Outcome env envelope sel r
        (.commit action (.authnFailed sel.provider) [.occurrence envelope (.noAuthnContext r.ip)])
  | noContextSigningIn {action : ResponseAction} {next : State} (genuine : r.isFraudulent = false)
      (status : WithoutContext envelope.sessionId sel.registering r.status action)
      (admitted : Admitted env envelope sel r sel.requested)
      (signingIn : sel.registering = false) (start : env.startState envelope.issuer = .ok next) :
      Outcome env envelope sel r
        (.commit action next [.occurrence envelope (.noAuthnContext r.ip)])
  | authnFailed (genuine : r.isFraudulent = false) (status : r.status = .authenticationFailed)
      (admitted : Admitted env envelope sel r sel.requested) :
      Outcome env envelope sel r
        (.commit (.other envelope.sessionId sel.registering) (.authnFailed sel.provider)
          [.occurrence envelope (.authnFailed r.ip)])
  | requesterError (genuine : r.isFraudulent = false) (status : r.status = .requesterError)
      (admitted : Admitted env envelope sel r sel.requested) :
      Outcome env envelope sel r
        (.commit (.other envelope.sessionId sel.registering) .requesterError
          [.occurrence envelope (.requesterError r.statusMessage r.ip)])
  | paused (genuine : r.isFraudulent = false) (status : r.status = .authenticationPending)
      (admitted : Admitted env envelope sel r (r.level.getD sel.requested)) :
      Outcome env envelope sel r
        (.commit (.pending envelope.sessionId) .registrationPaused
          [.occurrence envelope (.registrationPaused r.ip)])
  | fraud {persistentId eventId indicator : String} (fraudulent : r.isFraudulent = true)
      (admitted : Admitted env envelope sel r sel.requested)
      (hasPersistentId : r.persistentId = some persistentId)
      (hasEventId : r.fraudEventId = some eventId)
      (hasIndicator : r.fraudIndicator = some indicator) :
      Outcome env envelope sel r
        (.commit (.other envelope.sessionId sel.registering) (.fraudDetected sel.provider)
          [.occurrence envelope (.fraudReported
            { provider := sel.provider
              persistentId := persistentId
              eventId := eventId
              indicator := indicator
              ipSeenByProvider := r.ipSeenByProvider
              ip := r.ip })])

theorem outcome_of_succeed {d : Decision ResponseAction} (genuine : r.isFraudulent = false)
    (status : r.status = .success) (h : (succeed env envelope sel r).decision = .ok d) :
    Outcome env envelope sel r d := by
  simp only [succeed, Conduct.decision_check, Conduct.decision_ite, Conduct.decision_ask,
    Conduct.decision_commit, bind_eq_ok, checkSuccess_eq_ok, Failure.ofDirectory_eq_ok] at h
  obtain ⟨a, succeeds, t, transaction, h⟩ := h
  split at h
  · rename_i usesMatching
    simp only [bind_eq_ok] at h
    obtain ⟨service, bound, query, asks, h⟩ := h
    cases h
    exact .matching genuine status succeeds transaction usesMatching bound asks
  · rename_i noMatching
    cases h
    exact .nonMatching genuine status succeeds transaction (Bool.not_eq_true _ ▸ noMatching)

theorem outcome_of_noContext {d : Decision Unit} {action : ResponseAction}
    (genuine : r.isFraudulent = false)
    (status : WithoutContext envelope.sessionId sel.registering r.status action)
    (h : (noContext env envelope sel r).decision = .ok d) :
    Outcome env envelope sel r (d.map fun _ => action) := by
  simp only [noContext, Conduct.decision_check, bind_eq_ok, checkIssuer_eq_ok] at h
  obtain ⟨_, admitted, next, goesOn, h⟩ := h
  cases h
  unfold afterNoContext at goesOn
  split at goesOn
  · rename_i registering
    cases goesOn
    exact .noContextRegistering genuine status admitted registering
  · rename_i signingIn
    have start : env.startState envelope.issuer = .ok next := goesOn
    exact .noContextSigningIn genuine status admitted (Bool.not_eq_true _ ▸ signingIn) start

theorem outcome_of_fraud {d : Decision Unit} (fraudulent : r.isFraudulent = true)
    (h : (fraud env envelope sel r).decision = .ok d) :
    Outcome env envelope sel r
      (d.map fun _ => .other envelope.sessionId sel.registering) := by
  simp only [fraud, Conduct.decision_check, bind_eq_ok, checkIssuer_eq_ok,
    Failure.ofInvalidity_eq_ok, Check.mandatory_eq_ok] at h
  obtain ⟨_, admitted, persistentId, hp, eventId, he, indicator, hi, h⟩ := h
  cases h
  exact .fraud fraudulent admitted hp he hi

theorem outcome_of_handle {d : Decision ResponseAction}
    (h : (handle env envelope sel r).decision = .ok d) : Outcome env envelope sel r d := by
  unfold handle at h
  cases fraudulent : r.isFraudulent with
  | true =>
    simp only [fraudulent, if_true, Conduct.decision_map, map_eq_ok] at h
    obtain ⟨d, h, rfl⟩ := h
    exact outcome_of_fraud fraudulent h
  | false =>
    cases status : r.status <;>
      simp only [fraudulent, status, Bool.false_eq_true, if_false, Conduct.decision_map,
        map_eq_ok] at h
    case success => exact outcome_of_succeed fraudulent status h
    case noAuthenticationContext =>
      obtain ⟨d, h, rfl⟩ := h
      exact outcome_of_noContext fraudulent (status ▸ .noContext) h
    case authenticationCancelled =>
      obtain ⟨d, h, rfl⟩ := h
      exact outcome_of_noContext fraudulent (status ▸ .cancelled) h
    case upliftFailed =>
      obtain ⟨d, h, rfl⟩ := h
      exact outcome_of_noContext fraudulent (status ▸ .upliftFailed) h
    case authenticationFailed =>
      obtain ⟨d, h, rfl⟩ := h
      simp only [authnFailed, Conduct.decision_check, bind_eq_ok, checkIssuer_eq_ok] at h
      obtain ⟨_, admitted, h⟩ := h
      cases h
      exact .authnFailed fraudulent status admitted
    case requesterError =>
      obtain ⟨d, h, rfl⟩ := h
      simp only [requesterError, Conduct.decision_check, bind_eq_ok, checkIssuer_eq_ok] at h
      obtain ⟨_, admitted, h⟩ := h
      cases h
      exact .requesterError fraudulent status admitted
    case authenticationPending =>
      obtain ⟨d, h, rfl⟩ := h
      simp only [pause, Conduct.decision_check, bind_eq_ok, checkIssuer_eq_ok] at h
      obtain ⟨_, admitted, h⟩ := h
      cases h
      exact .paused fraudulent status admitted

/-- The level that the answering provider has to be enabled for: the requested one, or the one that
a pause is for. -/
def checkedLevel (sel : ProviderSelection) (r : ProviderResponse) : Level :=
  if r.isFraudulent = false ∧ r.status = .authenticationPending then r.level.getD sel.requested
  else sel.requested

/-- Whatever else it says, an answer from any other provider is refused. -/
theorem handle_of_not_admitted
    (stranger : ¬ Admitted env envelope sel r (checkedLevel sel r)) :
    ∃ refusal, (handle env envelope sel r).decision = .error (.refused refusal) := by
  obtain ⟨refusal, refused⟩ := checkIssuer_of_not_admitted stranger
  refine ⟨refusal, ?_⟩
  cases fraudulent : r.isFraudulent with
  | true =>
    simp only [checkedLevel, fraudulent, Bool.true_eq_false, false_and, if_false] at refused
    simp only [handle, fraudulent, if_true, fraud, refused]
    rfl
  | false =>
    cases status : r.status
    case authenticationPending =>
      simp only [checkedLevel, fraudulent, status, and_self, if_true] at refused
      simp only [handle, fraudulent, status, pause, refused]
      rfl
    all_goals
      simp only [checkedLevel, fraudulent, status, reduceCtorEq, and_false, if_false] at refused
      simp only [handle, fraudulent, status, succeed, checkSuccess, noContext, authnFailed,
        requesterError, refused]
      rfl

theorem isFraudulent_of_marked (marked : r.level = some .x) : r.isFraudulent = true := by
  show r.level.any Level.isFraudMarker = true
  rw [marked]
  rfl

/-- An answer with the fraud marker is refused, or the journey is in fraud from then on. -/
theorem handle_of_marked (marked : r.level = some .x) :
    (∃ refusal, (handle env envelope sel r).decision = .error (.refused refusal)) ∨
      ∃ d, (handle env envelope sel r).decision = .ok d ∧
        d.next = some (.fraudDetected sel.provider) := by
  have fraudulent : r.isFraudulent = true := isFraudulent_of_marked marked
  have level : checkedLevel sel r = sel.requested := by simp [checkedLevel, fraudulent]
  by_cases admitted : Admitted env envelope sel r sel.requested
  · have checked : checkIssuer env envelope sel r.issuer sel.requested = .ok () :=
      checkIssuer_eq_ok.mpr admitted
    simp only [handle, fraudulent, if_true, fraud, checked]
    cases r.persistentId with
    | none => exact .inl ⟨_, rfl⟩
    | some persistentId =>
      cases r.fraudEventId with
      | none => exact .inl ⟨_, rfl⟩
      | some eventId =>
        cases r.fraudIndicator with
        | none => exact .inl ⟨_, rfl⟩
        | some indicator => exact .inr ⟨_, rfl, rfl⟩
  · exact .inl (handle_of_not_admitted (level ▸ admitted))

/-! Which levels a success may have. -/

section Levels

variable {level : Level}

theorem isFraudulent_eq_false (given : r.level = some level) (genuine : level ≠ .x) :
    r.isFraudulent = false := by
  simp [ProviderResponse.isFraudulent, given, Level.isFraudMarker, genuine]

theorem handle_of_success (given : r.level = some level) (genuine : level ≠ .x)
    (status : r.status = .success) : handle env envelope sel r = succeed env envelope sel r := by
  simp [handle, isFraudulent_eq_false given genuine, status]

/-- A success that passes every check is taken, if the matching service can be asked where the
transaction uses one. -/
theorem succeed_of_succeeds {a : Assertion} {t : Transaction}
    (succeeds : Succeeds env envelope sel r a)
    (transaction : env.directory.transaction envelope.issuer = .ok t)
    (ready : t.usingMatching = true →
      ∃ service, matchingService env envelope sel = .ok service ∧ env.CanAsk service) :
    ∃ d, (succeed env envelope sel r).decision = .ok d := by
  have checked := checkSuccess_eq_ok.mpr succeeds
  simp only [succeed, Conduct.decision_check, Conduct.decision_ite, bind_eq_ok,
    Failure.ofDirectory_eq_ok, checked, transaction, Except.ok.injEq, exists_eq_left']
  cases usesMatching : t.usingMatching with
  | false => exact ⟨_, rfl⟩
  | true =>
    obtain ⟨service, bound, can⟩ := ready usesMatching
    have asks : ∃ q, env.query .cycle01 envelope (identity sel r a service) = .ok q :=
      Environment.CanAsk.query can
    obtain ⟨q, asks⟩ := asks
    simp only [if_true, bind_eq_ok, bound, Except.ok.injEq, exists_eq_left']
    exact ⟨_, q, asks, Conduct.decision_ask _ _ _ _⟩

/-- A success with a level that the provider was not asked for is invalid. -/
theorem succeed_of_unacceptable (admitted : Admitted env envelope sel r sel.requested)
    (given : r.level = some level) (unacceptable : level ∉ sel.levels) :
    ∃ cause, (succeed env envelope sel r).decision = .error (.refused (.invalid cause)) := by
  have checked : checkIssuer env envelope sel r.issuer sel.requested = .ok () :=
    checkIssuer_eq_ok.mpr admitted
  obtain ⟨cause, refused⟩ := Check.levelIn_of_not_mem unacceptable
  refine ⟨cause, ?_⟩
  simp only [succeed, checkSuccess, checked, given, refused]
  rfl

end Levels

end SignInJourney.Journey.ProviderResponse
