import SignInJourney.Proofs.Service.Forward

/-!
Where the questions to the matching service come from, and what comes of them. There are three ways
for a session to get to wait for an answer (`Origin`), and on each of them the query that goes out
carries what the session then holds (`Decides.asks`). Once the user has been authenticated there are
four ways on (`Proceeds`).
-/

namespace SignInJourney

open Service Journey

/-- The query is about the request: it answers to the session's request id and to the matching
service of the identity, and it has the identity's assertions and the data that were typed in. -/
structure AttributeQuery.Carries (q : AttributeQuery) (envelope : Envelope) (stage : Stage)
    (request : MatchRequest) : Prop where
  stage : q.stage = stage
  requestId : q.requestId = envelope.requestId
  matchingService : q.matchingService = request.identity.matchingService
  level : q.level = request.identity.level
  assertions : q.assertions = request.identity.assertions
  cycle3Dataset : q.cycle3Dataset = request.cycle3Dataset

theorem AttributeQuery.Carries.withAccountAttributes {q : AttributeQuery} {envelope : Envelope}
    {stage : Stage} {request : MatchRequest} (h : q.Carries envelope stage request)
    (attributes : List String) :
    (q.withAccountAttributes attributes).Carries envelope stage request :=
  ⟨h.stage, h.requestId, h.matchingService, h.level, h.assertions, h.cycle3Dataset⟩

section Queries

variable {env : Environment} {envelope : Envelope} {stage : Stage} {q : AttributeQuery}

theorem Environment.carries_query (request : MatchRequest)
    (asks : env.query stage envelope request.identity = .ok q) :
    (q.withCycle3Dataset request.cycle3Dataset).Carries envelope stage request := by
  obtain ⟨endpoint, _, made⟩ := query_eq_ok.mp asks
  obtain ⟨_, _, _, _, rfl⟩ := AttributeQuery.of?_eq_some.mp made
  exact ⟨rfl, rfl, rfl, rfl, rfl, rfl⟩

/-- A query has no typed-in data unless they are added. -/
theorem Environment.carries_bare_query {request : MatchRequest}
    (asks : env.query stage envelope request.identity = .ok q)
    (bare : request.cycle3Dataset = none) : q.Carries envelope stage request := by
  have carries := carries_query request asks
  obtain ⟨endpoint, _, made⟩ := query_eq_ok.mp asks
  obtain ⟨_, _, _, _, rfl⟩ := AttributeQuery.of?_eq_some.mp made
  rw [bare] at carries
  exact carries

end Queries

/-- What is committed once the user has been authenticated: what an answer of the matching service
leads to, that the service has failed, or what the user does about the cycle-3 question. -/
inductive Proceeds (env : Environment) (s : Session) : Operation → State → Prop
  | answered {id : SessionId} {r : MatchingResponse} {p : Matching.Pending} {d : Decision Unit}
      {next : State} (waits : Matching.pending? s = some p) (outcome : Matching.Outcome env p r d)
      (commits : d.next = some next) : Proceeds env s (.matchingResponse id r) next
  | failed {op : Operation} {p : Matching.Pending} (waits : Matching.pending? s = some p) :
    Proceeds env s op (.matchingFailed p.identity.provider)
  | submitted {id : SessionId} {input : Cycle3Input} {a : Cycle3.Asked} {name : String}
      (asks : Cycle3.asked? s = some a) (named : Cycle3.attributeName env a = .ok name) :
      Proceeds env s (.submitCycle3 id input)
        (.matchRequested a.family .cycle3 (Cycle3.request env a (.single name input.value)))
  | cancelled {op : Operation} {a : Cycle3.Asked} (asks : Cycle3.asked? s = some a) :
    Proceeds env s op .cycle3Cancelled

theorem Service.Decides.proceeds {env : Environment} {s : Session} {op : Operation}
    {d : Decision Answer} {next : State} (decides : Decides env s op d)
    (supports : ∀ c, op.needed = some c → s.state.supports c = true)
    (authenticated : s.state.rank ≠ 0) (commits : d.next = some next) :
    Proceeds env s op next := by
  have settled : ∀ c, op.needed = some c → c.isChoice = true → False :=
    fun c needed choice =>
      authenticated (State.rank_eq_zero_of_supports choice (supports c needed))
  cases decides with
  | providerSelected => exact (settled _ rfl rfl).elim
  | countrySelected => exact (settled _ rfl rfl).elim
  | providerAnswered => exact (settled _ rfl rfl).elim
  | countryAnswered => exact (settled _ rfl rfl).elim
  | restarted => exact (settled _ rfl rfl).elim
  | matchingAnswered waits outcome => exact .answered waits outcome commits
  | matchingFailed waits => cases commits; exact .failed waits
  | givenUp waits => cases commits; exact .failed waits
  | cycle3Submitted asks named => cases commits; exact .submitted asks named
  | cycle3Cancelled asks => cases commits; exact .cancelled asks
  | _ => cases commits

/-- How a session comes to put a request to the matching service: the user has been authenticated,
has typed cycle-3 data in, or has not been found. -/
inductive Origin (env : Environment) (s : Session) : Operation → Family → Stage → MatchRequest →
    Prop
  | authenticated {op : Operation} {family : Family} {request : MatchRequest}
      (unsettled : s.state.rank = 0) (bare : request.cycle3Dataset = none) :
      Origin env s op family .cycle01 request
  | submitted {id : SessionId} {input : Cycle3Input} {a : Cycle3.Asked} {name : String}
      (asks : Cycle3.asked? s = some a) (named : Cycle3.attributeName env a = .ok name) :
      Origin env s (.submitCycle3 id input) a.family .cycle3
        (Cycle3.request env a (.single name input.value))
  | unmatched {id : SessionId} {r : MatchingResponse} {p : Matching.Pending}
      (waits : Matching.pending? s = some p) (status : r.status = .unmatched)
      (early : p.stage ≠ .accountCreation) :
      Origin env s (.matchingResponse id r) p.family .accountCreation
        { p.request with sentAt := env.now }

section Asks

variable {env : Environment} {s : Session} {op : Operation} {family : Family} {stage : Stage}
  {request : MatchRequest}

theorem asks_of_provider {sel : ProviderSelection} {r : ProviderResponse}
    {d : Decision ResponseAction} (stands : s.state = .providerSelected sel)
    (outcome : ProviderResponse.Outcome env s.envelope sel r d)
    (commits : d.next = some (.matchRequested family stage request)) :
    Origin env s op family stage request ∧
      ∃ q, d.query = some q ∧ q.Carries s.envelope stage request := by
  have unsettled : s.state.rank = 0 := by rw [stands]; rfl
  cases outcome with
  | matching _ _ _ _ _ _ asks =>
    cases commits
    exact ⟨.authenticated unsettled rfl, _, rfl, Environment.carries_bare_query asks rfl⟩
  | noContextSigningIn _ _ _ _ start =>
    obtain ⟨_, _, rfl⟩ := Environment.startState_eq_ok.mp start
    cases commits
  | _ => cases commits

theorem asks_of_country {sel : CountrySelection} {r : CountryResponse}
    {d : Decision ResponseAction} (stands : s.state = .countrySelected sel)
    (outcome : Country.Outcome env s.envelope sel r d)
    (commits : d.next = some (.matchRequested family stage request)) :
    Origin env s op family stage request ∧
      ∃ q, d.query = some q ∧ q.Carries s.envelope stage request := by
  have unsettled : s.state.rank = 0 := by rw [stands]; rfl
  cases outcome with
  | matching _ _ _ _ _ _ _ asks =>
    cases commits
    exact ⟨.authenticated unsettled rfl, _, rfl, Environment.carries_bare_query asks rfl⟩
  | _ => cases commits

theorem asks_of_matching {id : SessionId} {p : Matching.Pending} {r : MatchingResponse}
    {d : Decision Unit} (waits : Matching.pending? s = some p)
    (outcome : Matching.Outcome env p r d)
    (commits : d.next = some (.matchRequested family stage request)) :
    Origin env s (.matchingResponse id r) family stage request ∧
      ∃ q, d.query = some q ∧ q.Carries s.envelope stage request := by
  rw [(Matching.pending?_eq_some.mp waits).1]
  cases outcome with
  | @asksAccount _ query status early _ _ _ _ asks =>
    cases commits
    have carries := Environment.carries_query { p.request with sentAt := env.now } asks
    exact ⟨.unmatched waits status early, _, rfl, carries.withAccountAttributes _⟩
  | accountCreationFailed =>
    cases h : p.family <;> simp [Matching.Pending.withoutAccount, Decision.commit, h] at commits
  | _ => cases commits

/-- Whatever is put to the matching service has an origin, and the query that goes out carries it.
-/
theorem Service.Decides.asks {d : Decision Answer} (decides : Decides env s op d)
    (commits : d.next = some (.matchRequested family stage request)) :
    Origin env s op family stage request ∧
      ∃ q, d.query = some q ∧ q.Carries s.envelope stage request := by
  cases decides with
  | providerAnswered stands outcome => exact asks_of_provider stands outcome commits
  | countryAnswered stands outcome => exact asks_of_country stands outcome commits
  | matchingAnswered waits outcome => exact asks_of_matching waits outcome commits
  | cycle3Submitted asks named queries =>
    cases commits
    rw [(Cycle3.asked?_eq_some.mp asks).1]
    exact ⟨.submitted asks named, _, rfl, Environment.carries_query
      (Cycle3.request _ _ (.single _ _)) queries⟩
  | restarted start =>
    obtain ⟨_, _, rfl⟩ := Environment.startState_eq_ok.mp start
    cases commits
  | _ => cases commits

end Asks

/-- Whatever the session waits for has been sent. -/
def Sent (id : SessionId) (history : List Moment) (s? : Option Session) : Prop :=
  ∀ s family stage request, s? = some s → s.state = .matchRequested family stage request →
    ∃ q ∈ history.flatMap (·.queries id), q.Carries s.envelope stage request

theorem sent_start {id : SessionId} : Sent id [] none :=
  fun _ _ _ _ none => nomatch none

theorem sent_step {id : SessionId} {history : List Moment} {m : Moment} {s? s?' : Option Session}
    (change : Change m id s? s?') (sent : Sent id history s?) : Sent id (history ++ [m]) s?' := by
  rintro s family stage request rfl waits
  rw [List.flatMap_append, List.flatMap_singleton]
  cases change with
  | idle =>
    obtain ⟨q, member, carries⟩ := sent s family stage request rfl waits
    exact ⟨q, List.mem_append_left _ member, carries⟩
  | opens _ opens =>
    obtain ⟨_, starts⟩ := Start.state_of_openSession opens
    rw [starts] at waits
    cases waits
  | expires => cases waits
  | commits _ _ decides commits asked =>
    cases waits
    obtain ⟨_, q, query, carries⟩ := decides.asks commits
    refine ⟨q, List.mem_append_right _ ?_, carries⟩
    rw [asked, query]
    exact List.mem_singleton_self q

theorem Run.sent {history : List Moment} {store : Store} (run : Run history store) {id : SessionId}
    {s? : Option Session} (found : store.get id = .ok s?) : Sent id history s? := by
  obtain ⟨s?', stored, sent⟩ := run.holds (P := Sent id) sent_start fun _ _ => sent_step
  cases Except.ok.inj (found.symm.trans stored)
  exact sent

/-! The sample's journey when the matching service does not find the user, and the transaction has
an attribute to ask for by then. -/

namespace Sample

def curious : Environment :=
  { env with
    directory :=
      .ofDocument
        { transactions := [{ transaction with cycle3Attribute := some "birthplace" }]
          providers := [provider]
          matchingServices := [matchingService]
          countries := [] } }

def unmatched : MatchingResponse :=
  { issuer := matchingService.id
    inResponseTo := "request"
    status := .unmatched
    assertion := none
    level := none }

def unmatching : Moment :=
  ⟨curious, authenticating.reply.store, .matchingResponse id unmatched⟩

def submitting : Moment :=
  ⟨curious, unmatching.reply.store, .submitCycle3 id { value := "Leeds", ip := "192.0.2.1" }⟩

theorem run_submitting :
    Run [opening, choosing, authenticating, unmatching, submitting] submitting.reply.store := by
  have asked : Run [opening, choosing, authenticating, unmatching] unmatching.reply.store :=
    .step (m := unmatching) run_authenticating trivial
  exact .step (m := submitting) asked trivial

end Sample

end SignInJourney
