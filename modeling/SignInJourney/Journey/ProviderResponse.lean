import SignInJourney.Journey.Basic
import SignInJourney.Message.Outbound

/-!
The session is with an identity provider: the request to send there, and what its answers lead to.
Every answer is checked to come from the selected provider, which must still be enabled.
-/

namespace SignInJourney.Journey.ProviderResponse

open Conduct (moveTo report reportAll send)

/-- The request for the provider. -/
def hubRequest (envelope : Envelope) (sel : ProviderSelection) : HubRequest :=
  { id := envelope.requestId
    levels := sel.levels
    exactComparison := sel.exactComparison
    recipient := sel.provider
    forceAuthentication := envelope.forceAuthentication
    expiry := envelope.expiry
    registering := sel.registering
    ssoUrl := none }

/-- Hands the request out; that it is fetched is reported. -/
def request (envelope : Envelope) (sel : ProviderSelection) : Conduct HubRequest := do
  report (.requestFetched envelope.sessionId envelope.issuer)
  return hubRequest envelope sel

/-- The matching service bound at selection, or the transaction's present one for a selection from
before it was bound. -/
def matchingService (env : Environment) (envelope : Envelope) (sel : ProviderSelection) :
    Except Failure String :=
  match sel.matchingService with
  | some id => .ok id
  | none => Failure.ofDirectory (env.directory.matchingServiceOf envelope.issuer)

/-- The answering provider is enabled for a level, and is the one that the user was sent to. -/
def checkIssuer (env : Environment) (envelope : Envelope) (sel : ProviderSelection)
    (issuer : String) (level : Level) : Except Failure Unit :=
  if issuer ∈ env.directory.enabledProviders envelope.issuer sel.registering level then
    Failure.ofInvalidity (Check.issuer envelope.requestId sel.provider issuer)
  else .error (.refused (.disabled issuer))

/-- What a successful answer asserts, once everything about it has been checked. -/
structure Assertion where
  achieved : Level
  persistentId : String
  matchingDataset : String
  authnStatement : String
  deriving DecidableEq, Repr

def checkSuccess (env : Environment) (envelope : Envelope) (sel : ProviderSelection)
    (r : ProviderResponse) : Except Failure Assertion := do
  checkIssuer env envelope sel r.issuer sel.requested
  let achieved ← Failure.ofInvalidity (Check.levelIn r.level sel.levels)
  let p ← Failure.ofDirectory (env.directory.provider r.issuer)
  if achieved ∉ p.levels then
    throw (.refused (.invalid (.unofferedLevel envelope.requestId achieved r.issuer)))
  let mandatory := Check.mandatory envelope.requestId
  let persistentId ← Failure.ofInvalidity (mandatory "persistentId" r.persistentId)
  let matchingDataset ← Failure.ofInvalidity
    (mandatory "encryptedMatchingDatasetAssertion" r.matchingDataset)
  let authnStatement ← Failure.ofInvalidity (mandatory "encryptedAuthnAssertion" r.authnStatement)
  .ok
    { achieved := achieved
      persistentId := persistentId
      matchingDataset := matchingDataset
      authnStatement := authnStatement }

/-- The report of a success; the levels of a selection are never none. -/
def successReport (envelope : Envelope) (sel : ProviderSelection) (r : ProviderResponse)
    (a : Assertion) : List Report :=
  match sel.levels.head?, sel.levels.getLast? with
  | some minimum, some required =>
    [.occurrence envelope (.authnSucceeded
      { party := sel.provider
        persistentId := a.persistentId
        minimum := minimum
        required := required
        provided := a.achieved
        ipSeenByProvider := r.ipSeenByProvider
        ip := r.ip })]
  | _, _ => []

/-- A success goes on to the matching service, or ends the journey where no matching is used. All
that can fail comes before the report. -/
def succeed (env : Environment) (envelope : Envelope) (sel : ProviderSelection)
    (r : ProviderResponse) : Conduct ResponseAction := do
  let a ← checkSuccess env envelope sel r
  let t ← Failure.ofDirectory (env.directory.transaction envelope.issuer)
  if t.usingMatching then
    let matchingService ← matchingService env envelope sel
    let identity : Identity :=
      { provider := r.issuer
        level := a.achieved
        matchingService := matchingService
        registering := sel.registering
        assertions := .domestic a.matchingDataset a.authnStatement a.persistentId }
    let query ← env.query .cycle01 envelope identity
    let request : MatchRequest :=
      { identity := identity, sentAt := env.now, cycle3Dataset := none }
    reportAll (successReport envelope sel r a)
    moveTo envelope (.matchRequested .domestic .cycle01 request)
    send envelope query
    return .matchingJourneySuccess envelope.sessionId sel.registering a.achieved
  else
    reportAll (successReport envelope sel r a)
    moveTo envelope (.nonMatchingSuccess [a.matchingDataset, a.authnStatement])
    return .nonMatchingJourneySuccess envelope.sessionId sel.registering a.achieved

/-- Where a user goes who has not been authenticated: one who signs in goes back to the start, one
who registers ends with an error. -/
def afterNoContext (env : Environment) (envelope : Envelope) (sel : ProviderSelection) :
    Except Failure State :=
  if sel.registering then .ok (.authnFailed sel.provider) else env.startState envelope.issuer

/-- No context, a cancellation or a failed uplift. -/
def noContext (env : Environment) (envelope : Envelope) (sel : ProviderSelection)
    (r : ProviderResponse) : Conduct Unit := do
  checkIssuer env envelope sel r.issuer sel.requested
  let next ← afterNoContext env envelope sel
  report (.occurrence envelope (.noAuthnContext r.ip))
  moveTo envelope next

def authnFailed (env : Environment) (envelope : Envelope) (sel : ProviderSelection)
    (r : ProviderResponse) : Conduct Unit := do
  checkIssuer env envelope sel r.issuer sel.requested
  report (.occurrence envelope (.authnFailed r.ip))
  moveTo envelope (.authnFailed sel.provider)

def requesterError (env : Environment) (envelope : Envelope) (sel : ProviderSelection)
    (r : ProviderResponse) : Conduct Unit := do
  checkIssuer env envelope sel r.issuer sel.requested
  report (.occurrence envelope (.requesterError r.statusMessage r.ip))
  moveTo envelope .requesterError

/-- The provider has paused a registration, for the level that it names or the requested one. -/
def pause (env : Environment) (envelope : Envelope) (sel : ProviderSelection)
    (r : ProviderResponse) : Conduct Unit := do
  checkIssuer env envelope sel r.issuer (r.level.getD sel.requested)
  report (.occurrence envelope (.registrationPaused r.ip))
  moveTo envelope .registrationPaused

def fraud (env : Environment) (envelope : Envelope) (sel : ProviderSelection)
    (r : ProviderResponse) : Conduct Unit := do
  checkIssuer env envelope sel r.issuer sel.requested
  let mandatory := Check.mandatory envelope.requestId
  let persistentId ← Failure.ofInvalidity (mandatory "persistentId" r.persistentId)
  let eventId ← Failure.ofInvalidity (mandatory "idpFraudEventId" r.fraudEventId)
  let indicator ← Failure.ofInvalidity (mandatory "fraudIndicator" r.fraudIndicator)
  report (.occurrence envelope (.fraudReported
    { provider := sel.provider
      persistentId := persistentId
      eventId := eventId
      indicator := indicator
      ipSeenByProvider := r.ipSeenByProvider
      ip := r.ip }))
  moveTo envelope (.fraudDetected sel.provider)

/-- What an answer leads to. A report of fraud counts before the status. -/
def handle (env : Environment) (envelope : Envelope) (sel : ProviderSelection)
    (r : ProviderResponse) : Conduct ResponseAction :=
  let id := envelope.sessionId
  let registering := sel.registering
  let answer (action : ResponseAction) : Conduct Unit → Conduct ResponseAction :=
    Conduct.map fun _ => action
  if r.isFraudulent then answer (.other id registering) (fraud env envelope sel r)
  else
    match r.status with
    | .success => succeed env envelope sel r
    | .noAuthenticationContext => answer (.other id registering) (noContext env envelope sel r)
    | .authenticationCancelled => answer (.cancel id registering) (noContext env envelope sel r)
    | .upliftFailed => answer (.failedUplift id registering) (noContext env envelope sel r)
    | .authenticationFailed => answer (.other id registering) (authnFailed env envelope sel r)
    | .requesterError => answer (.other id registering) (requesterError env envelope sel r)
    | .authenticationPending => answer (.pending id) (pause env envelope sel r)

end SignInJourney.Journey.ProviderResponse
