import SignInJourney.Journey.Basic

/-!
When the parts of a decision succeed: the checks of a response, the answers of the directory, and
the query about an identity. Each says all that a success tells.
-/

namespace SignInJourney

theorem bind_eq_ok {ε α β : Type} {x : Except ε α} {f : α → Except ε β} {b : β} :
    (x >>= f) = .ok b ↔ ∃ a, x = .ok a ∧ f a = .ok b := by
  cases x <;> simp [bind, Except.bind]

theorem map_eq_ok {ε α β : Type} {x : Except ε α} {f : α → β} {b : β} :
    x.map f = .ok b ↔ ∃ a, x = .ok a ∧ f a = b := by
  cases x <;> simp [Except.map]

theorem ok_eq_ok {ε α : Type} {a b : α} : (.ok a : Except ε α) = .ok b ↔ b = a := by
  rw [Except.ok.injEq, eq_comm]

namespace Failure

@[simp] theorem ofDirectory_eq_ok {α : Type} {x : Except DirectoryError α} {a : α} :
    ofDirectory x = .ok a ↔ x = .ok a := by
  cases x <;> simp [ofDirectory]

@[simp] theorem ofInvalidity_eq_ok {α : Type} {x : Except Invalidity α} {a : α} :
    ofInvalidity x = .ok a ↔ x = .ok a := by
  cases x <;> simp [ofInvalidity]

@[simp] theorem inRange_eq_ok {α : Type} {x : Option α} {a : α} :
    inRange x = .ok a ↔ x = some a := by
  cases x <;> simp [inRange]

end Failure

namespace Check

@[simp] theorem level_eq_ok {actual : Option Level} {expected : Level} {u : Unit} :
    level actual expected = .ok u ↔ actual = some expected := by
  cases actual with
  | none => simp [level]
  | some l => simp [level]

@[simp] theorem levelIn_eq_ok {actual : Option Level} {acceptable : List Level} {l : Level} :
    levelIn actual acceptable = .ok l ↔ actual = some l ∧ l ∈ acceptable := by
  cases actual with
  | none => simp [levelIn]
  | some l' =>
    by_cases member : l' ∈ acceptable
    · simp only [levelIn, member, if_true, Except.ok.injEq, Option.some.injEq]
      exact ⟨fun h => ⟨h, h ▸ member⟩, And.left⟩
    · simp only [levelIn, member, if_false, reduceCtorEq, Option.some.injEq, false_iff]
      rintro ⟨rfl, h⟩
      exact member h

theorem levelIn_of_not_mem {acceptable : List Level} {l : Level} (unacceptable : l ∉ acceptable) :
    ∃ cause, levelIn (some l) acceptable = .error cause := by
  rw [levelIn, if_neg unacceptable]
  exact ⟨_, rfl⟩

@[simp] theorem issuer_eq_ok {requestId expected actual : String} {u : Unit} :
    issuer requestId expected actual = .ok u ↔ actual = expected := by
  simp [issuer]

@[simp] theorem matchingResponse_eq_ok {requestId expectedIssuer actualIssuer inResponseTo : String}
    {u : Unit} :
    matchingResponse requestId expectedIssuer actualIssuer inResponseTo = .ok u ↔
      actualIssuer = expectedIssuer ∧ inResponseTo = requestId := by
  unfold matchingResponse
  by_cases issued : actualIssuer = expectedIssuer <;>
    by_cases answers : inResponseTo = requestId <;>
      simp [issued, answers]

@[simp] theorem mandatory_eq_ok {requestId name : String} {part : Option String} {value : String} :
    mandatory requestId name part = .ok value ↔ part = some value := by
  cases part <;> simp [mandatory]

end Check

theorem AttributeQuery.of?_eq_some {stage : Stage} {envelope : Envelope} {identity : Identity}
    {endpoint : MatchingEndpoint} {timing : QueryTiming} {q : AttributeQuery} :
    of? stage envelope identity endpoint timing = some q ↔
      ∃ assertionExpiry timeOut,
        timing.now.add? timing.assertionLifetime = some assertionExpiry ∧
        timing.now.add? timing.waitPeriod = some timeOut ∧
        q =
          { stage := stage
            requestId := envelope.requestId
            issuer := envelope.issuer
            consumerUri := envelope.consumerUri
            assertionExpiry := assertionExpiry
            matchingService := identity.matchingService
            uri := addressFor endpoint stage
            timeOut := timeOut
            onboarding := endpoint.onboarding
            level := identity.level
            persistentId := identity.assertions.persistentId
            assertions := identity.assertions
            cycle3Dataset := none
            accountAttributes := none } := by
  simp only [of?, Option.bind_eq_bind, Option.bind_eq_some_iff, Option.some.injEq]
  constructor
  · rintro ⟨assertionExpiry, lifetime, timeOut, wait, rfl⟩
    exact ⟨assertionExpiry, timeOut, lifetime, wait, rfl⟩
  · rintro ⟨assertionExpiry, timeOut, lifetime, wait, rfl⟩
    exact ⟨assertionExpiry, lifetime, timeOut, wait, rfl⟩

/-- A query comes about where both of its instants do. -/
theorem AttributeQuery.isSome_of?_iff {stage : Stage} {envelope : Envelope} {identity : Identity}
    {endpoint : MatchingEndpoint} {timing : QueryTiming} :
    (of? stage envelope identity endpoint timing).isSome = true ↔
      (timing.now.add? timing.assertionLifetime).isSome = true ∧
        (timing.now.add? timing.waitPeriod).isSome = true := by
  simp only [Option.isSome_iff_exists, of?_eq_some]
  constructor
  · rintro ⟨_, expiry, timeOut, lifetime, wait, -⟩
    exact ⟨⟨expiry, lifetime⟩, timeOut, wait⟩
  · rintro ⟨⟨expiry, lifetime⟩, timeOut, wait⟩
    exact ⟨_, expiry, timeOut, lifetime, wait, rfl⟩

theorem Environment.query_eq_ok {env : Environment} {stage : Stage} {envelope : Envelope}
    {identity : Identity} {q : AttributeQuery} :
    env.query stage envelope identity = .ok q ↔
      ∃ endpoint, env.directory.matchingService identity.matchingService = .ok endpoint ∧
        AttributeQuery.of? stage envelope identity endpoint env.queryTiming = some q := by
  simp only [query, bind_eq_ok, Failure.ofDirectory_eq_ok, Failure.inRange_eq_ok]

/-- A query asks the question of the stage that it is made for. -/
theorem Environment.stage_query {env : Environment} {stage : Stage} {envelope : Envelope}
    {identity : Identity} {q : AttributeQuery} (h : env.query stage envelope identity = .ok q) :
    q.stage = stage := by
  obtain ⟨endpoint, _, made⟩ := query_eq_ok.mp h
  obtain ⟨_, _, _, _, rfl⟩ := AttributeQuery.of?_eq_some.mp made
  rfl

/-- A matching service can be asked: the directory has it, and the times of a query can be
represented. -/
structure Environment.CanAsk (env : Environment) (service : String) : Prop where
  known : ∃ endpoint, env.directory.matchingService service = .ok endpoint
  assertionExpiry : (env.now.add? env.policy.assertionLifetime).isSome
  timeOut : (env.now.add? env.policy.waitPeriod).isSome

theorem Environment.CanAsk.query {env : Environment} {stage : Stage} {envelope : Envelope}
    {identity : Identity} (can : env.CanAsk identity.matchingService) :
    ∃ q, env.query stage envelope identity = .ok q := by
  obtain ⟨endpoint, known⟩ := can.known
  have made : (AttributeQuery.of? stage envelope identity endpoint env.queryTiming).isSome = true :=
    AttributeQuery.isSome_of?_iff.mpr ⟨can.assertionExpiry, can.timeOut⟩
  obtain ⟨q, made⟩ := Option.isSome_iff_exists.mp made
  exact ⟨q, query_eq_ok.mpr ⟨endpoint, known, made⟩⟩

end SignInJourney
