import SignInJourney.Proofs.Audit.Milestones
import SignInJourney.Proofs.Service.Effect

/-!
What is said about a session echoes its envelope. `Echoes` says for each kind of output which of its
fields are the envelope's, and whatever a handler decides about a session echoes the session's
(`Decides.echoes`, `Decides.answer_echoes`). Each operation has its own milestones to report
(`Decides.milestone_mem`).
-/

namespace SignInJourney

open Service Journey

/-! ### Outputs -/

def Report.Echoes (e : Envelope) : Report → Prop
  | .occurrence envelope _ => envelope = e
  | .requestFetched session transaction => session = e.sessionId ∧ transaction = e.issuer
  | .failure session _ => session = e.sessionId

structure AuditEvent.Echoes (e : Envelope) (event : AuditEvent) : Prop where
  session : event.session = e.sessionId
  transaction : event.category ≠ .error → event.detail? .transactionEntityId = some e.issuer
  requestId : event.category = .session → event.detail? .requestId = some e.requestId
  expiry : event.category = .session →
    event.detail? .sessionExpiryTime = some e.expiry.offsetText

structure AttributeQuery.Echoes (e : Envelope) (q : AttributeQuery) : Prop where
  requestId : q.requestId = e.requestId
  issuer : q.issuer = e.issuer
  consumerUri : q.consumerUri = e.consumerUri

structure HubRequest.Echoes (e : Envelope) (r : HubRequest) : Prop where
  id : r.id = e.requestId
  expiry : r.expiry = e.expiry

structure HubResponse.Echoes (e : Envelope) (r : HubResponse) : Prop where
  inResponseTo : r.inResponseTo = e.requestId
  issuer : r.issuer = e.issuer
  relayState : r.relayState = e.relayState
  consumerUri : r.consumerUri = e.consumerUri

def Answer.Echoes (e : Envelope) : Answer → Prop
  | .session id => id = e.sessionId
  | .signIn details => details.issuer = e.issuer ∧ details.supportsEidas = e.supportsEidas
  | .request fetched => fetched.Echoes e
  | .action taken => taken.session = e.sessionId
  | .question asked => asked.issuer = e.issuer
  | .processing details => details.session = e.sessionId ∧ details.transaction = e.issuer
  | .response given => given.Echoes e
  | .truth _ | .level _ | .done => True

/-- All that a decision reports and asks echoes the envelope. -/
structure Decision.Echoes {α : Type} (e : Envelope) (d : Decision α) : Prop where
  reports : ∀ report ∈ d.reports, report.Echoes e
  query : ∀ q, d.query = some q → q.Echoes e

section Outputs

variable {e : Envelope}

theorem Report.Echoes.session {r : Report} (h : r.Echoes e) : r.session = e.sessionId := by
  cases r with
  | occurrence envelope what => exact congrArg Envelope.sessionId h
  | requestFetched session transaction => exact h.1
  | failure session message => exact h

theorem AuditEvent.echoes_ofReport {service : String} {now : Time.Instant} {r : Report}
    (h : r.Echoes e) : (ofReport service now r).Echoes e := by
  have session : r.session = e.sessionId := h.session
  cases r with
  | occurrence envelope what =>
    have same : envelope = e := h
    subst same
    exact ⟨session, fun _ => detail?_ofReport envelope what rfl,
      fun _ => detail?_ofReport envelope what rfl, fun _ => detail?_ofReport envelope what rfl⟩
  | requestFetched id transaction =>
    refine ⟨session, fun _ => ?_, nofun, nofun⟩
    rw [← h.2]
    rfl
  | failure id message =>
    refine ⟨session, fun other => ?_, nofun, nofun⟩
    exact absurd rfl other

theorem AttributeQuery.Echoes.withCycle3Dataset {q : AttributeQuery} (h : q.Echoes e)
    (dataset : Option Cycle3Dataset) : (q.withCycle3Dataset dataset).Echoes e :=
  ⟨h.requestId, h.issuer, h.consumerUri⟩

theorem AttributeQuery.Echoes.withAccountAttributes {q : AttributeQuery} (h : q.Echoes e)
    (attributes : List String) : (q.withAccountAttributes attributes).Echoes e :=
  ⟨h.requestId, h.issuer, h.consumerUri⟩

theorem Environment.echoes_query {env : Environment} {stage : Stage} {identity : Identity}
    {q : AttributeQuery} (asks : env.query stage e identity = .ok q) : q.Echoes e := by
  obtain ⟨endpoint, _, made⟩ := query_eq_ok.mp asks
  obtain ⟨_, _, _, _, rfl⟩ := AttributeQuery.of?_eq_some.mp made
  exact ⟨rfl, rfl, rfl⟩

theorem HubResponse.echoes_answering (status : TransactionStatus) (assertions : List String) :
    (answering e status assertions).Echoes e :=
  ⟨rfl, rfl, rfl, rfl⟩

theorem Journey.Answer.echoes_response {state : State} {r : HubResponse}
    (response : response? e state = some r) : r.Echoes e := by
  cases state <;> cases response <;> exact HubResponse.echoes_answering _ _

end Outputs

/-! ### Decisions -/

namespace Decision

variable {e : Envelope} {α β : Type}

theorem Echoes.map {d : Decision α} (h : d.Echoes e) (f : α → β) : (d.map f).Echoes e :=
  ⟨h.reports, h.query⟩

theorem echoes_of_unasked {d : Decision α} (h : ∀ report ∈ d.reports, report.Echoes e)
    (unasked : d.query = none) : d.Echoes e := by
  refine ⟨h, fun q asked => ?_⟩
  rw [unasked] at asked
  cases asked

theorem echoes_reply (answer : α) : (reply answer).Echoes e :=
  echoes_of_unasked (List.forall_mem_nil _) rfl

theorem echoes_commit {answer : α} {next : State} {reports : List Report}
    (h : ∀ report ∈ reports, report.Echoes e) : (commit answer next reports).Echoes e :=
  echoes_of_unasked h rfl

theorem echoes_ask {answer : α} {next : State} {reports : List Report} {query : AttributeQuery}
    (h : ∀ report ∈ reports, report.Echoes e) (asks : query.Echoes e) :
    (ask answer next reports query).Echoes e := by
  refine ⟨h, ?_⟩
  rintro _ ⟨⟩
  exact asks

end Decision

/-- One thing that has happened to the session is all there is to report. -/
theorem Report.forall_occurrence {e : Envelope} {what : Occurrence} :
    ∀ report ∈ [Report.occurrence e what], report.Echoes e :=
  List.forall_mem_singleton.mpr rfl

namespace Journey

open Decision

variable {env : Environment} {e : Envelope}

namespace ProviderResponse

variable {sel : ProviderSelection} {r : ProviderResponse} {d : Decision ResponseAction}

theorem forall_successReport {a : Assertion} :
    ∀ report ∈ successReport e sel r a, report.Echoes e := by
  intro report member
  obtain ⟨_, rfl⟩ := mem_successReport member
  exact rfl

theorem Outcome.echoes (outcome : Outcome env e sel r d) : d.Echoes e := by
  cases outcome with
  | matching _ _ _ _ _ _ asks =>
    exact echoes_ask forall_successReport (Environment.echoes_query asks)
  | nonMatching => exact echoes_commit forall_successReport
  | _ => exact echoes_commit Report.forall_occurrence

theorem WithoutContext.session {id : SessionId} {registering : Bool} {status : ProviderStatus}
    {action : ResponseAction} (h : WithoutContext id registering status action) :
    action.session = id := by
  cases h <;> rfl

theorem Outcome.session (outcome : Outcome env e sel r d) : d.answer.session = e.sessionId := by
  cases outcome with
  | noContextRegistering _ status => exact status.session
  | noContextSigningIn _ status => exact status.session
  | _ => rfl

end ProviderResponse

namespace Country

variable {sel : CountrySelection} {r : CountryResponse} {d : Decision ResponseAction}

theorem forall_successReport {a : Assertion} :
    ∀ report ∈ successReport e sel r a, report.Echoes e := by
  intro report member
  obtain ⟨_, rfl⟩ := mem_successReport member
  exact rfl

theorem Outcome.echoes (outcome : Outcome env e sel r d) : d.Echoes e := by
  cases outcome with
  | matching _ _ _ _ _ _ _ asks =>
    exact echoes_ask forall_successReport (Environment.echoes_query asks)
  | nonMatching => exact echoes_commit forall_successReport
  | authnFailed => exact echoes_commit Report.forall_occurrence

theorem Outcome.session (outcome : Outcome env e sel r d) : d.answer.session = e.sessionId := by
  cases outcome <;> rfl

end Country

theorem Matching.echoes_withoutService {p : Pending} : p.withoutService.Echoes e :=
  echoes_commit (List.forall_mem_nil _)

theorem Matching.Outcome.echoes {p : Pending} {r : MatchingResponse} {d : Decision Unit}
    (outcome : Outcome env p r d) : d.Echoes p.envelope := by
  cases outcome with
  | asksAccount _ _ _ _ _ _ asks =>
    have echoes := (Environment.echoes_query asks).withCycle3Dataset p.request.cycle3Dataset
    exact echoes_ask Report.forall_occurrence (echoes.withAccountAttributes _)
  | requesterError => exact echoes_of_unasked (List.forall_mem_singleton.mpr rfl) rfl
  | _ => exact echoes_commit Report.forall_occurrence

end Journey

namespace Service.Decides

open Decision

variable {env : Environment} {s : Session} {op : Operation} {d : Decision Answer}

/-- Whatever is decided about a session, the reports and the query echo its envelope. -/
theorem echoes (decides : Decides env s op d) : d.Echoes s.envelope := by
  cases decides with
  | providerAnswered _ outcome => exact outcome.echoes.map _
  | countryAnswered _ outcome => exact outcome.echoes.map _
  | matchingAnswered waits outcome =>
    rw [(Matching.pending?_eq_some.mp waits).1]
    exact outcome.echoes.map _
  | matchingFailed => exact Matching.echoes_withoutService.map _
  | givenUp => exact Matching.echoes_withoutService.map _
  | cycle3Submitted asks _ queries =>
    rw [(Cycle3.asked?_eq_some.mp asks).1]
    have echoes := Environment.echoes_query queries
    exact echoes_ask Report.forall_occurrence (echoes.withCycle3Dataset _)
  | cycle3Cancelled asks =>
    rw [(Cycle3.asked?_eq_some.mp asks).1]
    exact echoes_commit Report.forall_occurrence
  | restarted =>
    apply echoes_commit
    split
    · exact Report.forall_occurrence
    · exact List.forall_mem_nil _
  | providerSelected => exact echoes_commit Report.forall_occurrence
  | countrySelected => exact echoes_commit Report.forall_occurrence
  | providerRequest => exact echoes_of_unasked (List.forall_mem_singleton.mpr ⟨rfl, rfl⟩) rfl
  | countryRequest => exact echoes_of_unasked (List.forall_mem_singleton.mpr ⟨rfl, rfl⟩) rfl
  | _ => exact echoes_reply _

theorem processing_echoes {p : Matching.Pending} (waits : Matching.pending? s = some p)
    (step : NextStep) : (Answer.processing (p.details step)).Echoes s.envelope := by
  rw [(Matching.pending?_eq_some.mp waits).1]
  exact ⟨rfl, rfl⟩

/-- Whatever is answered about it echoes the envelope too. -/
theorem answer_echoes (decides : Decides env s op d) : d.answer.Echoes s.envelope := by
  cases decides with
  | signInDetails => exact ⟨rfl, rfl⟩
  | providerRequest => exact ⟨rfl, rfl⟩
  | countryRequest => exact ⟨rfl, rfl⟩
  | providerAnswered _ outcome => exact outcome.session
  | countryAnswered _ outcome => exact outcome.session
  | cycle3Question asks =>
    rw [(Cycle3.asked?_eq_some.mp asks).1]
    exact rfl
  | waiting waits => exact processing_echoes waits _
  | givenUp waits => exact processing_echoes waits _
  | nextStep _ step =>
    unfold Answer.processingDetails at step
    split at step
    · cases step
      exact ⟨rfl, rfl⟩
    · cases step
  | prepared response => exact Answer.echoes_response response
  | errorResponse => exact HubResponse.echoes_answering _ _
  | _ => trivial

end Service.Decides

/-! ### Milestones -/

/-- The milestones that an operation may report about a session that it finds in time. -/
def Operation.milestones : Operation → List Milestone
  | .selectProvider _ _ => [.idpSelected]
  | .selectCountry _ _ => [.countrySelected]
  | .providerResponse _ _ =>
    [.idpAuthnSucceeded, .noAuthnContext, .idpAuthnFailed, .requesterError, .idpAuthnPending,
      .fraudDetected]
  | .countryResponse _ _ => [.idpAuthnSucceeded, .idpAuthnFailed]
  | .matchingResponse _ _ =>
    [.cycle01Match, .cycle3Match, .cycle01NoMatch, .cycle3NoMatch, .waitingForCycle3Attributes,
      .userAccountCreationRequestSent, .userAccountCreated, .userAccountCreationFailed]
  | .submitCycle3 _ _ => [.cycle3DataObtained]
  | .cancelCycle3 _ => [.cycle3Cancel]
  | .restart _ => [.sessionStarted]
  | _ => []

/-- No report is of a milestone that is not among some. -/
def Report.AllWithin (reports : List Report) (milestones : List Milestone) : Prop :=
  ∀ report ∈ reports, ∀ milestone, report.milestone? = some milestone → milestone ∈ milestones

namespace Report

variable {milestones : List Milestone}

theorem allWithin_nil : AllWithin [] milestones :=
  fun _ member => nomatch member

theorem allWithin_occurrence {e : Envelope} {what : Occurrence}
    (listed : what.milestone ∈ milestones) : AllWithin [.occurrence e what] milestones := by
  intro report member milestone of
  cases List.mem_singleton.mp member
  cases of
  exact listed

theorem allWithin_of_unnamed {report : Report} (unnamed : report.milestone? = none) :
    AllWithin [report] milestones := by
  intro report' member milestone of
  cases List.mem_singleton.mp member
  cases unnamed.symm.trans of

end Report

namespace Journey

open Report

variable {env : Environment} {e : Envelope} {id : SessionId}

theorem ProviderResponse.Outcome.allWithin {sel : ProviderSelection} {r : ProviderResponse}
    {d : Decision ResponseAction} (outcome : Outcome env e sel r d) :
    AllWithin d.reports (Operation.providerResponse id r).milestones := by
  cases outcome with
  | matching | nonMatching =>
    intro report member
    obtain ⟨success, rfl⟩ := mem_successReport member
    exact allWithin_occurrence (List.mem_cons_self ..) _ (List.mem_singleton_self _)
  | _ => exact allWithin_occurrence (by simp [Occurrence.milestone, Operation.milestones])

theorem Country.Outcome.allWithin {sel : CountrySelection} {r : CountryResponse}
    {d : Decision ResponseAction} (outcome : Outcome env e sel r d) :
    AllWithin d.reports (Operation.countryResponse id r).milestones := by
  cases outcome with
  | matching | nonMatching =>
    intro report member
    obtain ⟨success, rfl⟩ := mem_successReport member
    exact allWithin_occurrence (List.mem_cons_self ..) _ (List.mem_singleton_self _)
  | authnFailed => exact allWithin_occurrence (by simp [Occurrence.milestone, Operation.milestones])

theorem Matching.Outcome.allWithin {p : Pending} {r : MatchingResponse} {d : Decision Unit}
    (outcome : Outcome env p r d) :
    AllWithin d.reports (Operation.matchingResponse id r).milestones := by
  cases outcome with
  | matched | unmatched =>
    apply allWithin_occurrence
    cases p.stage <;>
      simp [matchedIn, unmatchedIn, Occurrence.milestone, Operation.milestones]
  | requesterError => exact allWithin_of_unnamed rfl
  | _ => exact allWithin_occurrence (by simp [Occurrence.milestone, Operation.milestones])

end Journey

theorem Service.Decides.milestone_mem {env : Environment} {s : Session} {op : Operation}
    {d : Decision Answer} (decides : Decides env s op d) :
    Report.AllWithin d.reports op.milestones := by
  cases decides with
  | providerAnswered _ outcome => exact outcome.allWithin
  | countryAnswered _ outcome => exact outcome.allWithin
  | matchingAnswered _ outcome => exact outcome.allWithin
  | providerRequest => exact Report.allWithin_of_unnamed rfl
  | countryRequest => exact Report.allWithin_of_unnamed rfl
  | restarted =>
    simp only [Decision.commit]
    split
    · exact Report.allWithin_occurrence (List.mem_singleton_self _)
    · exact Report.allWithin_nil
  | providerSelected => exact Report.allWithin_occurrence (List.mem_singleton_self _)
  | countrySelected => exact Report.allWithin_occurrence (List.mem_singleton_self _)
  | cycle3Submitted => exact Report.allWithin_occurrence (List.mem_singleton_self _)
  | cycle3Cancelled => exact Report.allWithin_occurrence (List.mem_singleton_self _)
  | _ => exact Report.allWithin_nil

end SignInJourney
