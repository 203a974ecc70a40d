import SignInJourney.Journey.Basic
import SignInJourney.Message.Outbound

/-!
The session waits for the matching service: what its answers lead to, and giving up on it. Both
families take the same steps, each within its own states.
-/

namespace SignInJourney.Journey.Matching

open Conduct (moveTo report send)

/-- A question that is waiting for its answer. -/
structure Pending where
  envelope : Envelope
  family : Family
  stage : Stage
  request : MatchRequest
  deriving DecidableEq

/-- What a session waits for, if it waits for the matching service. -/
def pending? (s : Session) : Option Pending :=
  match s.state with
  | .matchRequested family stage request =>
    some { envelope := s.envelope, family := family, stage := stage, request := request }
  | _ => none

namespace Pending

def identity (p : Pending) : Identity :=
  p.request.identity

def kind (p : Pending) : StateKind :=
  (State.matchRequested p.family p.stage p.request).kind

end Pending

/-- The answer comes from the service that was asked and answers the request. -/
def checkResponse (p : Pending) (r : MatchingResponse) : Except Failure Unit :=
  Failure.ofInvalidity
    (Check.matchingResponse p.envelope.requestId p.identity.matchingService r.issuer r.inResponseTo)

/-- The outcome that an answer makes of the identity: the levels agree and the assertion is there.
-/
def outcome (p : Pending) (r : MatchingResponse) : Except Failure MatchOutcome := do
  Failure.ofInvalidity (Check.level r.level p.identity.level)
  let assertion ← Failure.ofInvalidity
    (Check.mandatory p.envelope.requestId "encryptedMatchingServiceAssertion" r.assertion)
  .ok
    { provider := p.identity.provider
      assertion := assertion
      level := p.identity.level
      registering := p.identity.registering }

def matched (p : Pending) (r : MatchingResponse) : Conduct Unit := do
  checkResponse p r
  let outcome ← outcome p r
  let what : Occurrence :=
    match p.stage with
    | .cycle3 => .cycle3Matched
    | .cycle01 | .accountCreation => .cycle01Matched
  report (.occurrence p.envelope what)
  moveTo p.envelope (.matched p.family outcome)

/-- Asks for an account, with the data that were sent for the match. -/
def requestAccount (env : Environment) (p : Pending) (attributes : List String) :
    Conduct Unit := do
  let query ← env.query .accountCreation p.envelope p.identity
  let query := (query.withCycle3Dataset p.request.cycle3Dataset).withAccountAttributes attributes
  let request : MatchRequest := { p.request with sentAt := env.now }
  report (.occurrence p.envelope .accountCreationRequested)
  moveTo p.envelope (.matchRequested p.family .accountCreation request)
  send p.envelope query

/-- Nobody was found, and cycle 3 is no way on: an account is created if the transaction wants one.
-/
def createAccountOrEnd (env : Environment) (p : Pending) (transaction : Transaction) :
    Conduct Unit :=
  if transaction.accountAttributes.isEmpty then do
    let what : Occurrence :=
      match p.stage with
      | .cycle3 => .cycle3Unmatched
      | .cycle01 | .accountCreation => .cycle01Unmatched
    report (.occurrence p.envelope what)
    moveTo p.envelope (.unmatched p.identity.provider)
  else requestAccount env p transaction.accountAttributes

/-- Nobody was found: cycle 3 comes first, then account creation, then the end. Cycle 3 is never
entered twice. -/
def unmatched (env : Environment) (p : Pending) (r : MatchingResponse) : Conduct Unit := do
  checkResponse p r
  let t ← Failure.ofDirectory (env.directory.transaction p.envelope.issuer)
  if p.stage = .cycle01 ∧ t.cycle3Attribute.isSome then
    report (.occurrence p.envelope .cycle3Asked)
    moveTo p.envelope (.awaitingCycle3 p.family p.identity)
  else createAccountOrEnd env p t

def accountCreated (p : Pending) (r : MatchingResponse) : Conduct Unit := do
  checkResponse p r
  let outcome ← outcome p r
  report (.occurrence p.envelope .accountCreated)
  moveTo p.envelope (.accountCreated outcome)

/-- A failed creation has no data to check and is taken as it is. -/
def accountCreationFailed (p : Pending) : Conduct Unit := do
  let next : State :=
    match p.family with
    | .domestic => .accountCreationFailed
    | .eidas => .eidasAccountCreationFailed p.identity.provider
  report (.occurrence p.envelope .accountCreationFailed)
  moveTo p.envelope next

/-- The service could not be reached, or answered what cannot be used. -/
def fail (p : Pending) : Conduct Unit :=
  moveTo p.envelope (.matchingFailed p.identity.provider)

def requesterError (p : Pending) (r : MatchingResponse) : Conduct Unit := do
  checkResponse p r
  report (.failure p.envelope.sessionId "Matching service returned requester error")
  fail p

/-- What an answer leads to, if it is one to the question of this stage. -/
def handle (env : Environment) (p : Pending) (r : MatchingResponse) : Conduct Unit :=
  match r.status, p.stage with
  | .matched, .cycle01 | .matched, .cycle3 => matched p r
  | .unmatched, .cycle01 | .unmatched, .cycle3 => unmatched env p r
  | .accountCreated, .accountCreation => accountCreated p r
  | .accountCreationFailed, .accountCreation => accountCreationFailed p
  | .requesterError, _ => requesterError p r
  | status, _ =>
    .fail (.refused (.invalid (.unexpectedAnswer status p.envelope.requestId p.kind)))

/-- The next step: to wait until the wait period is over, and then to give up. -/
def processingDetails (env : Environment) (p : Pending) : Conduct ProcessingDetails := do
  let deadline ← Failure.inRange (p.request.sentAt.add? env.policy.waitPeriod)
  let details (step : NextStep) : ProcessingDetails :=
    { session := p.envelope.sessionId, step := step, transaction := p.envelope.issuer }
  if deadline < env.now then
    fail p
    return details .showMatchingErrorPage
  else
    return details .wait

end SignInJourney.Journey.Matching
