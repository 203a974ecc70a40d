import SignInJourney.Proofs.Service.Run

/-!
No success without authentication. `Justified` says what must have happened in a run for a session
to be in its state: the selected party has authenticated the user, and after that the matching
service has matched them. Whatever is committed keeps it (`justified_of_commit`), so it holds of
every session of every run.
-/

namespace SignInJourney

open Service Journey

/-- What goes to the transaction of assertions that are not matched: a provider's matching dataset
and then its authn statement, or a country's identity assertion. -/
def Assertions.parts : Assertions → List String
  | .domestic dataset statement _ => [dataset, statement]
  | .eidas identity _ => [identity]

namespace Moment

/-- The party that a session has selected answers that the user is authenticated, at a level and
with assertions, and the answer is accepted. -/
inductive Authenticates (m : Moment) (id : SessionId) (level : Level) : Assertions → Prop
  | provider {s : Session} {sel : ProviderSelection} {r : ProviderResponse}
      {dataset statement persistentId : String} {action : ResponseAction}
      (operation : m.operation = .providerResponse id r) (found : m.store.get id = .ok (some s))
      (selected : s.state = .providerSelected sel) (issuer : r.issuer = sel.provider)
      (status : r.status = .success) (achieved : r.level = some level) (genuine : level ≠ .x)
      (hasDataset : r.matchingDataset = some dataset)
      (hasStatement : r.authnStatement = some statement)
      (hasPersistentId : r.persistentId = some persistentId)
      (accepted : m.reply.result = .ok (.action action)) :
      Authenticates m id level (.domestic dataset statement persistentId)
  | country {s : Session} {sel : CountrySelection} {r : CountryResponse}
      {identity persistentId : String} {action : ResponseAction}
      (operation : m.operation = .countryResponse id r) (found : m.store.get id = .ok (some s))
      (selected : s.state = .countrySelected sel) (issuer : r.issuer = sel.country)
      (status : r.status = .success) (achieved : r.level = some level) (genuine : level ≠ .x)
      (hasIdentity : r.identityAssertion = some identity)
      (hasPersistentId : r.persistentId = some persistentId)
      (accepted : m.reply.result = .ok (.action action)) :
      Authenticates m id level (.eidas identity persistentId)

/-- The matching service that a session waits for answers its request with an assertion about the
user who was authenticated, and the answer is accepted. -/
inductive Matches (m : Moment) (id : SessionId) (level : Level) (assertions : Assertions) :
    String → Prop
  | intro {s : Session} {family : Family} {stage : Stage} {request : MatchRequest}
      {r : MatchingResponse} {assertion : String} (operation : m.operation = .matchingResponse id r)
      (found : m.store.get id = .ok (some s))
      (waits : s.state = .matchRequested family stage request)
      (sameLevel : request.identity.level = level)
      (sameAssertions : request.identity.assertions = assertions)
      (status : r.status = .matched ∨ r.status = .accountCreated)
      (issuer : r.issuer = request.identity.matchingService)
      (inResponseTo : r.inResponseTo = s.envelope.requestId) (achieved : r.level = some level)
      (asserted : r.assertion = some assertion) (accepted : m.reply.result = .ok .done) :
      Matches m id level assertions assertion

/-- The journey of a session ends without matching. -/
def EndsUnmatched (m : Moment) (id : SessionId) (assertions : List String) : Prop :=
  ∃ s, m.reply.store.get id = .ok (some s) ∧ s.state = .nonMatchingSuccess assertions

end Moment

section Histories

variable {id : SessionId} {history : List Moment} {m : Moment} {level : Level}
  {assertions : Assertions}

/-- The user of a session has been authenticated. -/
def Authenticated (id : SessionId) (history : List Moment) (level : Level)
    (assertions : Assertions) : Prop :=
  ∃ m ∈ history, m.Authenticates id level assertions

/-- The user of a session has been authenticated, and the journey ended with that. -/
def EndedUnmatched (id : SessionId) (history : List Moment) (parts : List String) : Prop :=
  ∃ m ∈ history, ∃ level assertions, m.Authenticates id level assertions ∧
    m.EndsUnmatched id parts ∧ parts = assertions.parts

/-- The user of a session has been authenticated and then matched. -/
def EndedMatched (id : SessionId) (history : List Moment) (assertion : String) : Prop :=
  ∃ m m' level assertions, [m, m'].Sublist history ∧ m.Authenticates id level assertions ∧
    m'.Matches id level assertions assertion

theorem Authenticated.of_last (h : m.Authenticates id level assertions) :
    Authenticated id (history ++ [m]) level assertions :=
  ⟨m, List.mem_append_right _ (List.mem_singleton_self m), h⟩

theorem Authenticated.append (h : Authenticated id history level assertions) (m : Moment) :
    Authenticated id (history ++ [m]) level assertions := by
  obtain ⟨earlier, member, authenticates⟩ := h
  exact ⟨earlier, List.mem_append_left _ member, authenticates⟩

theorem EndedUnmatched.of_last {s : Session} (h : m.Authenticates id level assertions)
    (stored : m.reply.store.get id = .ok (some s))
    (ended : s.state = .nonMatchingSuccess assertions.parts) :
    EndedUnmatched id (history ++ [m]) assertions.parts :=
  ⟨m, List.mem_append_right _ (List.mem_singleton_self m), level, assertions, h,
    ⟨s, stored, ended⟩, rfl⟩

theorem EndedUnmatched.append {parts : List String} (h : EndedUnmatched id history parts)
    (m : Moment) : EndedUnmatched id (history ++ [m]) parts := by
  obtain ⟨earlier, member, ended⟩ := h
  exact ⟨earlier, List.mem_append_left _ member, ended⟩

theorem EndedMatched.append {assertion : String} (h : EndedMatched id history assertion)
    (m : Moment) : EndedMatched id (history ++ [m]) assertion := by
  obtain ⟨first, second, level, assertions, inOrder, ended⟩ := h
  exact ⟨first, second, level, assertions, inOrder.trans (List.sublist_append_left _ _), ended⟩

/-- A match in the last moment comes after an authentication in an earlier one. -/
theorem Authenticated.matched {assertion : String}
    (h : Authenticated id history level assertions)
    (matching : m.Matches id level assertions assertion) :
    EndedMatched id (history ++ [m]) assertion := by
  obtain ⟨earlier, member, authenticates⟩ := h
  refine ⟨earlier, m, level, assertions, ?_, authenticates, matching⟩
  exact (List.singleton_sublist.mpr member).append (List.Sublist.refl [m])

end Histories

/-- What must have happened for a session to be in a state. -/
def Justified (id : SessionId) (history : List Moment) : State → Prop
  | .countrySelected sel => sel.levels = Country.defaultLevels
  | .matchRequested _ _ request =>
    Authenticated id history request.identity.level request.identity.assertions
  | .awaitingCycle3 _ identity => Authenticated id history identity.level identity.assertions
  | .matched _ outcome | .accountCreated outcome => EndedMatched id history outcome.assertion
  | .nonMatchingSuccess parts => EndedUnmatched id history parts
  | _ => True

theorem Justified.append {id : SessionId} {history : List Moment} {state : State}
    (h : Justified id history state) (m : Moment) : Justified id (history ++ [m]) state := by
  cases state with
  | countrySelected => exact h
  | matchRequested => exact Authenticated.append h m
  | awaitingCycle3 => exact Authenticated.append h m
  | matched => exact EndedMatched.append h m
  | accountCreated => exact EndedMatched.append h m
  | nonMatchingSuccess => exact EndedUnmatched.append h m
  | _ => exact trivial

section Step

variable {id : SessionId} {history : List Moment} {m : Moment} {s : Session} {next : State}

/-- The start of a journey is in need of no justification. -/
theorem justified_startState {env : Environment} {transaction : String}
    (start : env.startState transaction = .ok next) : Justified id history next := by
  obtain ⟨t, _, rfl⟩ := Environment.startState_eq_ok.mp start
  exact trivial

theorem authenticates_of_provider {sel : ProviderSelection} {r : ProviderResponse}
    {a : ProviderResponse.Assertion} {action : ResponseAction}
    (operation : m.operation = .providerResponse id r) (found : m.store.get id = .ok (some s))
    (stands : s.state = .providerSelected sel) (result : m.reply.result = .ok (.action action))
    (genuine : r.isFraudulent = false) (status : r.status = .success)
    (succeeds : ProviderResponse.Succeeds m.env s.envelope sel r a) :
    m.Authenticates id a.achieved
      (.domestic a.matchingDataset a.authnStatement a.persistentId) := by
  have strength : a.achieved ≠ .x := by
    intro marker
    rw [ProviderResponse.isFraudulent, succeeds.level, marker] at genuine
    cases genuine
  exact .provider operation found stands succeeds.admitted.issuer status succeeds.level strength
    succeeds.matchingDataset succeeds.authnStatement succeeds.persistentId result

theorem authenticates_of_country {sel : CountrySelection} {r : CountryResponse}
    {a : Country.Assertion} {action : ResponseAction}
    (operation : m.operation = .countryResponse id r) (found : m.store.get id = .ok (some s))
    (stands : s.state = .countrySelected sel) (justified : Justified id history s.state)
    (result : m.reply.result = .ok (.action action)) (issuer : r.issuer = sel.country)
    (status : r.status = .success) (succeeds : Country.Succeeds sel r a) :
    m.Authenticates id a.achieved (.eidas a.identity a.persistentId) := by
  -- The levels asked of a country are checked here only; no selection offers the marker level.
  have strength : a.achieved ≠ .x := by
    intro marker
    have acceptable := succeeds.acceptable
    rw [stands] at justified
    rw [justified, marker] at acceptable
    exact absurd acceptable (by decide)
  exact .country operation found stands issuer status succeeds.level strength succeeds.identity
    succeeds.persistentId result

theorem justified_of_provider {sel : ProviderSelection} {r : ProviderResponse}
    {d : Decision ResponseAction} (operation : m.operation = .providerResponse id r)
    (found : m.store.get id = .ok (some s))
    (stored : m.reply.store.get id = .ok (some (s.withState next)))
    (stands : s.state = .providerSelected sel) (result : m.reply.result = .ok (.action d.answer))
    (outcome : ProviderResponse.Outcome m.env s.envelope sel r d) (commits : d.next = some next) :
    Justified id (history ++ [m]) next := by
  cases outcome with
  | matching genuine status succeeds =>
    cases commits
    exact .of_last
      (authenticates_of_provider operation found stands result genuine status succeeds)
  | nonMatching genuine status succeeds =>
    cases commits
    have authenticates :=
      authenticates_of_provider operation found stands result genuine status succeeds
    exact EndedUnmatched.of_last authenticates stored rfl
  | noContextSigningIn _ _ _ _ start =>
    cases commits
    exact justified_startState start
  | _ => cases commits; exact trivial

theorem justified_of_country {sel : CountrySelection} {r : CountryResponse}
    {d : Decision ResponseAction} (operation : m.operation = .countryResponse id r)
    (found : m.store.get id = .ok (some s))
    (stored : m.reply.store.get id = .ok (some (s.withState next)))
    (stands : s.state = .countrySelected sel) (justified : Justified id history s.state)
    (result : m.reply.result = .ok (.action d.answer))
    (outcome : Country.Outcome m.env s.envelope sel r d) (commits : d.next = some next) :
    Justified id (history ++ [m]) next := by
  cases outcome with
  | matching _ issuer status succeeds =>
    cases commits
    exact .of_last
      (authenticates_of_country operation found stands justified result issuer status succeeds)
  | nonMatching _ issuer status succeeds =>
    cases commits
    have authenticates :=
      authenticates_of_country operation found stands justified result issuer status succeeds
    exact EndedUnmatched.of_last authenticates stored rfl
  | authnFailed => cases commits; exact trivial

theorem justified_of_matching {p : Matching.Pending} {r : MatchingResponse} {d : Decision Unit}
    (operation : m.operation = .matchingResponse id r) (found : m.store.get id = .ok (some s))
    (waits : Matching.pending? s = some p) (justified : Justified id history s.state)
    (result : m.reply.result = .ok .done) (outcome : Matching.Outcome m.env p r d)
    (commits : d.next = some next) : Justified id (history ++ [m]) next := by
  obtain ⟨sameEnvelope, stands⟩ := Matching.pending?_eq_some.mp waits
  have authenticated := stands ▸ justified
  cases outcome with
  | matched status _ answers level given =>
    cases commits
    exact Authenticated.matched authenticated (.intro operation found stands rfl rfl (.inl status)
      answers.issuer (sameEnvelope ▸ answers.inResponseTo) level given result)
  | accountCreated status _ answers level given =>
    cases commits
    exact Authenticated.matched authenticated (.intro operation found stands rfl rfl (.inr status)
      answers.issuer (sameEnvelope ▸ answers.inResponseTo) level given result)
  | asksCycle3 =>
    cases commits
    exact Authenticated.append authenticated m
  | asksAccount =>
    cases commits
    exact Authenticated.append authenticated m
  | accountCreationFailed =>
    cases commits
    cases p.family <;> exact trivial
  | _ => cases commits; exact trivial

theorem justified_selection {country : String} {service : Option String}
    (justified : Justified id history s.state) :
    Justified id (history ++ [m]) (.countrySelected (Country.selection s country service)) := by
  show Country.selectionLevels s.state = Country.defaultLevels
  unfold Country.selectionLevels
  split
  · rename_i stands
    rw [stands] at justified
    exact justified
  · rfl

/-- Whatever a handler commits is justified by the moment and by what justified the state before. -/
theorem justified_of_commit {d : Decision Answer} (h : m.Commits id s d next)
    (justified : Justified id history s.state) : Justified id (history ++ [m]) next := by
  obtain ⟨found, stored, on, _, decides, commits, result⟩ := h
  generalize operation : m.operation = op at on decides
  cases decides with
  | providerAnswered stands outcome =>
    cases on
    exact justified_of_provider operation found stored stands result outcome commits
  | countryAnswered stands outcome =>
    cases on
    exact justified_of_country operation found stored stands justified result outcome commits
  | matchingAnswered waits outcome =>
    cases on
    exact justified_of_matching operation found waits justified result outcome commits
  | cycle3Submitted asks =>
    cases commits
    rw [(Cycle3.asked?_eq_some.mp asks).2] at justified
    exact Authenticated.append justified m
  | countrySelected =>
    cases commits
    exact justified_selection justified
  | restarted start =>
    cases commits
    exact justified_startState start
  | _ => cases commits <;> exact trivial

end Step

/-- In every run the state of every session is justified by what has happened. -/
theorem Run.justified {history : List Moment} {store : Store} (run : Run history store)
    {id : SessionId} {s : Session} (found : store.get id = .ok (some s)) :
    Justified id history s.state := by
  apply run.invariant (Q := fun history s => Justified id history s.state) ?_ ?_ ?_ ?_ found
  · exact fun justified m => justified.append m
  · intro _ _ _ stands
    rw [stands]
    exact trivial
  · intro _ _ stands
    rw [stands]
    exact trivial
  · exact justified_of_commit

/-- A response for the transaction is there only for a session that has ended. -/
theorem perform_preparedResponse {env : Environment} {store : Store} {id : SessionId}
    {r : HubResponse}
    (answers : (perform env store (.preparedResponse id)).result = .ok (.response r)) :
    ∃ s, store.get id = .ok (some s) ∧ Answer.response? s.envelope s.state = some r := by
  have effect := effect_of_perform env store (.preparedResponse id)
  generalize perform env store (.preparedResponse id) = reply at effect answers
  cases effect with
  | failed result =>
    rw [result] at answers
    cases answers
  | expired => cases answers
  | @decided _ s _ found _ decides =>
    cases decides with
    | prepared response =>
      cases answers
      exact ⟨s, found, response⟩

/-- A success is what was asserted about a user who has been authenticated: with nothing to match,
exactly what the provider or the country asserted, and else what the matching service asserted when
it answered the session's request afterwards, at the level of the authentication. -/
theorem authenticated_of_success {history : List Moment} {store : Store}
    (run : Run history store) {env : Environment} {id : SessionId} {r : HubResponse}
    (answers : (perform env store (.preparedResponse id)).result = .ok (.response r))
    (success : r.status = .success) :
    EndedUnmatched id history r.assertions ∨
      ∃ assertion, EndedMatched id history assertion ∧ r.assertions = [assertion] := by
  obtain ⟨s, found, response⟩ := perform_preparedResponse answers
  have justified := run.justified found
  obtain ⟨envelope, state⟩ := s
  cases state with
  | matched family outcome =>
    cases response
    exact .inr ⟨_, justified, rfl⟩
  | accountCreated outcome =>
    cases response
    exact .inr ⟨_, justified, rfl⟩
  | nonMatchingSuccess parts =>
    cases response
    exact .inl justified
  | _ => cases response <;> cases success

theorem authenticated_of_sample_success :
    EndedUnmatched Sample.id
        [Sample.opening, Sample.choosing, Sample.authenticating, Sample.matching] ["match"] ∨
      ∃ assertion, EndedMatched Sample.id
        [Sample.opening, Sample.choosing, Sample.authenticating, Sample.matching] assertion ∧
        ["match"] = [assertion] := by
  have answers :
      (perform Sample.env Sample.matching.reply.store (.preparedResponse Sample.id)).result =
        .ok (.response
          { inResponseTo := "request"
            issuer := Sample.transaction.id
            assertions := ["match"]
            relayState := none
            consumerUri := "https://transaction.test/answer"
            status := .success }) := rfl
  exact authenticated_of_success Sample.run answers rfl

end SignInJourney
