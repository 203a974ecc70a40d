import SignInJourney.Journey.Basic
import SignInJourney.Message.Outbound

/-!
The cross-border journey: the user picks a country, and what the country's answers lead to. The
country must be enabled at both moments.
-/

namespace SignInJourney.Journey.Country

open Conduct (moveTo report reportAll send)

/-- The levels asked of a country on a fresh selection. -/
def defaultLevels : List Level := [.two]

def checkEnabled (env : Environment) (transaction country : String) : Except Failure Unit := do
  let countries ← Failure.ofDirectory (env.directory.countriesFor transaction)
  if countries.any fun c => c.id == country then .ok ()
  else throw (.refused (.invalid (.countryNotEnabled country)))

/-- The levels for a new selection: a country picked in place of another is asked for the same. -/
def selectionLevels : State → List Level
  | .countrySelected selected => selected.levels
  | _ => defaultLevels

def select (env : Environment) (s : Session) (country : String) : Conduct Unit := do
  let transaction := s.envelope.issuer
  checkEnabled env transaction country
  let matchingService ← env.matchingServiceFor transaction
  let selected : CountrySelection :=
    { country := country
      levels := selectionLevels s.state
      matchingService := matchingService }
  moveTo s.envelope (.countrySelected selected)
  report (.occurrence s.envelope (.countrySelected country))

/-- The request for the country. -/
def hubRequest (env : Environment) (envelope : Envelope) (sel : CountrySelection) : HubRequest :=
  { id := envelope.requestId
    levels := sel.levels
    exactComparison := false
    recipient := sel.country
    forceAuthentication := some true
    expiry := envelope.expiry
    registering := false
    ssoUrl := env.directory.ssoUrl? sel.country }

/-- Hands the request out; that it is fetched is reported. -/
def request (env : Environment) (envelope : Envelope) (sel : CountrySelection) :
    Conduct HubRequest := do
  let request := hubRequest env envelope sel
  report (.requestFetched envelope.sessionId envelope.issuer)
  return request

/-- What a successful answer asserts, once everything about it has been checked. -/
structure Assertion where
  achieved : Level
  persistentId : String
  identity : String
  deriving DecidableEq, Repr

/-- What has to be there is checked before the level. -/
def checkSuccess (envelope : Envelope) (sel : CountrySelection) (r : CountryResponse) :
    Except Failure Assertion := do
  let mandatory := Check.mandatory envelope.requestId
  let persistentId ← Failure.ofInvalidity (mandatory "persistentId" r.persistentId)
  let identity ← Failure.ofInvalidity
    (mandatory "encryptedIdentityAssertionBlob" r.identityAssertion)
  let achieved ← Failure.ofInvalidity (Check.levelIn r.level sel.levels)
  .ok { achieved := achieved, persistentId := persistentId, identity := identity }

/-- The matching service bound at selection, or the transaction's present one. -/
def matchingService (env : Environment) (envelope : Envelope) (sel : CountrySelection) :
    Except Failure String :=
  match sel.matchingService with
  | some id => .ok id
  | none => Failure.ofDirectory (env.directory.matchingServiceOf envelope.issuer)

/-- The report of a success; the levels of a selection are never none. -/
def successReport (envelope : Envelope) (sel : CountrySelection) (r : CountryResponse)
    (a : Assertion) : List Report :=
  match sel.levels.head?, sel.levels.getLast? with
  | some minimum, some required =>
    [.occurrence envelope (.authnSucceeded
      { party := sel.country
        persistentId := a.persistentId
        minimum := minimum
        required := required
        provided := a.achieved
        ipSeenByProvider := none
        ip := r.ip })]
  | _, _ => []

/-- A success goes on to the matching service, or ends the journey where no matching is used. -/
def succeed (env : Environment) (envelope : Envelope) (sel : CountrySelection)
    (r : CountryResponse) : Conduct ResponseAction := do
  let a ← checkSuccess envelope sel r
  let t ← Failure.ofDirectory (env.directory.transaction envelope.issuer)
  if t.usingMatching then
    let matchingService ← matchingService env envelope sel
    let identity : Identity :=
      { provider := sel.country
        level := a.achieved
        matchingService := matchingService
        registering := false
        assertions := .eidas a.identity a.persistentId }
    let query ← env.query .cycle01 envelope identity
    let request : MatchRequest :=
      { identity := identity, sentAt := env.now, cycle3Dataset := none }
    reportAll (successReport envelope sel r a)
    moveTo envelope (.matchRequested .eidas .cycle01 request)
    send envelope query
    return .success envelope.sessionId false a.achieved
  else
    reportAll (successReport envelope sel r a)
    moveTo envelope (.nonMatchingSuccess [a.identity])
    return .nonMatchingJourneySuccess envelope.sessionId false a.achieved

def authnFailed (envelope : Envelope) (sel : CountrySelection) (r : CountryResponse) :
    Conduct Unit := do
  report (.occurrence envelope (.authnFailed r.ip))
  moveTo envelope (.countryAuthnFailed sel.country sel.levels)

/-- What an answer leads to: whatever is no success is a failed authentication. -/
def handle (env : Environment) (envelope : Envelope) (sel : CountrySelection)
    (r : CountryResponse) : Conduct ResponseAction := do
  checkEnabled env envelope.issuer sel.country
  Failure.ofInvalidity (Check.issuer envelope.requestId sel.country r.issuer)
  match r.status with
  | .success => succeed env envelope sel r
  | .failure | .requesterError | .noAuthenticationContext =>
    (authnFailed envelope sel r).map fun _ => .other envelope.sessionId false

end SignInJourney.Journey.Country
