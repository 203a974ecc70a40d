import SignInJourney.Audit.Document
import SignInJourney.Journey.Answer
import SignInJourney.Journey.Country
import SignInJourney.Journey.Cycle3
import SignInJourney.Journey.Matching
import SignInJourney.Journey.ProviderResponse
import SignInJourney.Journey.ProviderSelection
import SignInJourney.Journey.Start
import SignInJourney.Store.Basic

/-!
The operations of the hub on stored sessions. An operation loads its session, which must not be past
its deadline and must offer the capability that the operation needs, and a handler takes over:
whatever it commits, reports and sends until it answers or fails is done at once and not undone. A
session found past its deadline may be stored as timed out, and that is reported.
-/

namespace SignInJourney

open Time

/-- What came of looking a session up for an operation. -/
structure Access where
  result : Except Refusal Session
  store : Store
  reports : List Report

namespace Access

/-- The session under an id, whatever its state. -/
def peek (store : Store) (id : SessionId) : Except Refusal Session :=
  match store.get id with
  | .ok (some s) => .ok s
  | .ok none => .error (.notFound id)
  | .error _ => .error (.unreadable id)

/-- A session that is not past its deadline, or is stored as timed out, for an operation. A
timed-out session has nothing but an error response to give. -/
def allow (id : SessionId) (needed : Option Capability) (s : Session) : Except Refusal Session :=
  if s.state = .timedOut ∧ needed ≠ some .errorResponsePrepared then .error (Refusal.timeoutOf s)
  else
    match needed with
    | some capability =>
      if s.state.supports capability then .ok s
      else .error (.unsupported id capability s.kind)
    | none => .ok s

/-- Turns a session away that is past its deadline; under the policy it is stored as timed out. -/
def expire (env : Environment) (store : Store) (s : Session) : Access :=
  if env.policy.storeTimeouts then
    { result := .error (Refusal.timeoutOf s)
      store := store.put (s.withState .timedOut)
      reports := [.occurrence s.envelope .timedOut] }
  else { result := .error (Refusal.timeoutOf s), store := store, reports := [] }

/-- Loads a session for an operation. -/
def load (env : Environment) (store : Store) (id : SessionId) (needed : Option Capability) :
    Access :=
  let seen := store.touch id
  match peek store id with
  | .error r => { result := .error r, store := seen, reports := [] }
  | .ok s =>
    if s.isExpiredAt env.now ∧ s.state ≠ .timedOut then expire env seen s
    else { result := allow id needed s, store := seen, reports := [] }

end Access

/-- The operations, each with the session that it is on. -/
inductive Operation where
  /-- Under the id that was drawn for the new session. -/
  | createSession (id : SessionId) (request : AuthnRequest)
  | sessionExists (id : SessionId)
  | signInDetails (id : SessionId)
  | selectProvider (id : SessionId) (choice : ProviderChoice)
  | selectCountry (id : SessionId) (country : String)
  | requestFromHub (id : SessionId)
  | providerResponse (id : SessionId) (response : ProviderResponse)
  | countryResponse (id : SessionId) (response : CountryResponse)
  | matchingResponse (id : SessionId) (response : MatchingResponse)
  /-- A query could not be delivered, or its answer could not be used. -/
  | matchingFailure (id : SessionId)
  | cycle3Question (id : SessionId)
  | submitCycle3 (id : SessionId) (input : Cycle3Input)
  | cancelCycle3 (id : SessionId)
  | processingDetails (id : SessionId)
  | preparedResponse (id : SessionId)
  | errorResponse (id : SessionId)
  | restart (id : SessionId)
  | levelOfAssurance (id : SessionId)
  deriving DecidableEq, Repr

namespace Operation

def session : Operation → SessionId
  | .createSession id _ | .sessionExists id | .signInDetails id | .selectProvider id _
  | .selectCountry id _ | .requestFromHub id | .providerResponse id _ | .countryResponse id _
  | .matchingResponse id _ | .matchingFailure id | .cycle3Question id | .submitCycle3 id _
  | .cancelCycle3 id | .processingDetails id | .preparedResponse id | .errorResponse id
  | .restart id | .levelOfAssurance id => id

end Operation

/-- What operations answer. -/
inductive Answer where
  | session (id : SessionId)
  | truth (b : Bool)
  | signIn (details : SignInDetails)
  | request (request : HubRequest)
  | action (action : ResponseAction)
  | question (question : Cycle3Question)
  | processing (details : ProcessingDetails)
  | response (response : HubResponse)
  | level (level : Option Level)
  | done
  deriving DecidableEq, Repr

/-- What came of an operation. -/
structure Reply where
  result : Except Failure Answer
  store : Store
  events : List AuditEvent
  queries : List (SessionId × AttributeQuery)

namespace Service

/-- A reply that only answers. -/
def answer (store : Store) (result : Except Failure Answer) : Reply :=
  { result := result, store := store, events := [], queries := [] }

def events (env : Environment) (reports : List Report) : List AuditEvent :=
  reports.map (AuditEvent.ofReport env.policy.serviceName env.now)

/-- A reply with one more thing done. -/
def act (env : Environment) (reply : Reply) : Act → Reply
  | .report r => { reply with events := reply.events ++ events env [r] }
  | .commit s => { reply with store := reply.store.put s }
  | .send id query => { reply with queries := reply.queries ++ [(id, query)] }

/-- Does what a handler does, one thing after the other, whether it ends with an answer or not. -/
def execute (env : Environment) (store : Store) (c : Conduct Answer) : Reply :=
  c.acts.foldl (act env) (answer store c.result)

/-- Loads the session that an operation is on and lets a handler take over. -/
def withSession (env : Environment) (store : Store) (id : SessionId) (needed : Option Capability)
    (handler : Session → Conduct Answer) : Reply :=
  let access := Access.load env store id needed
  match access.result with
  | .ok s => execute env access.store (handler s)
  | .error r =>
    { result := .error (.refused r)
      store := access.store
      events := events env access.reports
      queries := [] }

/-- The refusal of a session whose state has no use for an event. -/
def unfit {α : Type} (s : Session) (needed : Capability) : Conduct α :=
  .fail (.refused (.unsupported s.id needed s.kind))

/-- A handler that has nothing to answer. -/
def silently : Conduct Unit → Conduct Answer :=
  Conduct.map fun _ => .done

/-- A handler that only answers. -/
def saying {α : Type} (name : α → Answer) (step : Except Failure α) : Conduct Answer :=
  Conduct.map name (liftM step)

def createSession (env : Environment) (store : Store) (id : SessionId) (request : AuthnRequest) :
    Reply :=
  execute env store ((Journey.Start.create env id request).map .session)

def requestFromHub (env : Environment) (s : Session) : Conduct Answer :=
  match s.state with
  | .providerSelected sel => (Journey.ProviderResponse.request s.envelope sel).map .request
  | .countrySelected sel => (Journey.Country.request env s.envelope sel).map .request
  | _ => unfit s .idpSelecting

def providerResponse (env : Environment) (r : ProviderResponse) (s : Session) : Conduct Answer :=
  match s.state with
  | .providerSelected sel => (Journey.ProviderResponse.handle env s.envelope sel r).map .action
  | _ => unfit s .idpSelecting

def countryResponse (env : Environment) (r : CountryResponse) (s : Session) : Conduct Answer :=
  match s.state with
  | .countrySelected sel => (Journey.Country.handle env s.envelope sel r).map .action
  | _ => unfit s .countrySelecting

/-- Hands over the question that a session waits for the answer to. -/
def withPending (s : Session) (handler : Journey.Matching.Pending → Conduct Unit) :
    Conduct Answer :=
  match Journey.Matching.pending? s with
  | some p => silently (handler p)
  | none => unfit s .waitingForMatchingServiceResponse

/-- Hands over the user that a session asks for cycle-3 data. -/
def withAsked (s : Session) (handler : Journey.Cycle3.Asked → Conduct Answer) : Conduct Answer :=
  match Journey.Cycle3.asked? s with
  | some a => handler a
  | none => unfit s .awaitingCycle3Data

def processingDetails (env : Environment) (s : Session) : Conduct Answer :=
  match Journey.Matching.pending? s with
  | some p => (Journey.Matching.processingDetails env p).map .processing
  | none => saying .processing (Journey.Answer.processingDetails s)

def levelOfAssurance (store : Store) (id : SessionId) : Reply :=
  answer (store.touch id)
    (match Access.peek store id with
    | .ok s => .ok (.level s.state.achievedLevel?)
    | .error r => .error (.refused r))

/-- Runs an operation. -/
def perform (env : Environment) (store : Store) : Operation → Reply
  | .createSession id request => createSession env store id request
  | .sessionExists id => answer store (.ok (.truth (store.contains id)))
  | .signInDetails id =>
    withSession env store id none fun s => saying .signIn (.ok (Journey.Start.signInDetails s))
  | .selectProvider id choice =>
    withSession env store id (some .idpSelecting) fun s =>
      silently (Journey.ProviderSelection.select env s choice)
  | .selectCountry id country =>
    withSession env store id (some .countrySelecting) fun s =>
      silently (Journey.Country.select env s country)
  | .requestFromHub id => withSession env store id none (requestFromHub env)
  | .providerResponse id r => withSession env store id (some .idpSelecting) (providerResponse env r)
  | .countryResponse id r =>
    withSession env store id (some .countrySelecting) (countryResponse env r)
  | .matchingResponse id r =>
    withSession env store id (some .waitingForMatchingServiceResponse) fun s =>
      withPending s fun p => Journey.Matching.handle env p r
  | .matchingFailure id =>
    withSession env store id (some .waitingForMatchingServiceResponse) fun s =>
      withPending s Journey.Matching.fail
  | .cycle3Question id =>
    withSession env store id (some .awaitingCycle3Data) fun s =>
      withAsked s fun a => saying .question (Journey.Cycle3.question env a)
  | .submitCycle3 id input =>
    withSession env store id (some .awaitingCycle3Data) fun s =>
      withAsked s fun a => silently (Journey.Cycle3.submit env a input)
  | .cancelCycle3 id =>
    withSession env store id (some .awaitingCycle3Data) fun s =>
      withAsked s fun a => silently (Journey.Cycle3.cancel a)
  | .processingDetails id =>
    withSession env store id (some .responseProcessing) (processingDetails env)
  | .preparedResponse id =>
    withSession env store id (some .responsePrepared) fun s =>
      saying .response (Journey.Answer.prepared s)
  | .errorResponse id =>
    withSession env store id (some .errorResponsePrepared) fun s =>
      saying .response (.ok (Journey.Answer.errorResponse s))
  | .restart id =>
    withSession env store id (some .restartJourney) fun s => silently (Journey.Start.restart env s)
  | .levelOfAssurance id => levelOfAssurance store id

end Service

end SignInJourney
