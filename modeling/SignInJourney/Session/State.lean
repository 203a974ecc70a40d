import SignInJourney.Data.Dictionary
import SignInJourney.Session.Id
import SignInJourney.Session.Level
import SignInJourney.Time.Instant

/-!
The state of a session: the envelope that every state carries, and where the user stands on the
journey. The waiting states of the matching cycle come in two families, domestic and cross-border
(eIDAS), with the same contents; the family and the stage are part of the state.
-/

namespace SignInJourney

open Time

/-- What a session keeps for its whole life. -/
structure Envelope where
  /-- The id of the request that the transaction sent; every answer echoes it. -/
  requestId : String
  /-- The transaction (relying service) that sent it. -/
  issuer : String
  expiry : Instant
  /-- Where the answer has to go. -/
  consumerUri : String
  sessionId : SessionId
  supportsEidas : Bool
  /-- Handed back to the transaction unread. -/
  relayState : Option String
  forceAuthentication : Option Bool
  deriving DecidableEq, Repr

/-- Attributes that a user typed in for a cycle-3 match, by name. -/
structure Cycle3Dataset where
  attributes : Dictionary String
  deriving DecidableEq

namespace Cycle3Dataset

def single (name value : String) : Cycle3Dataset :=
  { attributes := Dictionary.empty.insert name value }

end Cycle3Dataset

/-- Domestic journeys go through an identity provider, eIDAS ones through a country. -/
inductive Family where
  | domestic
  | eidas
  deriving DecidableEq, Repr

/-- Which question the matching service was asked. -/
inductive Stage where
  | cycle01
  | cycle3
  | accountCreation
  deriving DecidableEq, Repr

/-- What an identity provider or a country asserted, still encrypted. -/
inductive Assertions where
  | domestic (matchingDataset authnStatement persistentId : String)
  | eidas (identity persistentId : String)
  deriving DecidableEq, Repr

namespace Assertions

def persistentId : Assertions → String
  | .domestic _ _ pid => pid
  | .eidas _ pid => pid

def family : Assertions → Family
  | .domestic .. => .domestic
  | .eidas .. => .eidas

end Assertions

/-- A user who has been authenticated and is to be matched. -/
structure Identity where
  /-- The identity provider, or the country. -/
  provider : String
  level : Level
  matchingService : String
  registering : Bool
  assertions : Assertions
  deriving DecidableEq, Repr

structure ProviderSelection where
  provider : String
  /-- Absent on sessions from before it was settled at selection. -/
  matchingService : Option String
  /-- The requested level first, then the others that will do. -/
  levels : List Level
  exactComparison : Bool
  registering : Bool
  requested : Level
  available : List String
  deriving DecidableEq, Repr

structure CountrySelection where
  country : String
  levels : List Level
  matchingService : Option String
  deriving DecidableEq, Repr

/-- A question that the matching service has not answered yet. -/
structure MatchRequest where
  identity : Identity
  sentAt : Instant
  /-- Present once the user has typed in cycle-3 data. -/
  cycle3Dataset : Option Cycle3Dataset
  deriving DecidableEq

/-- What the matching service answered. -/
structure MatchOutcome where
  provider : String
  assertion : String
  level : Level
  registering : Bool
  deriving DecidableEq, Repr

inductive State where
  | sessionStarted (providers : List String)
  | providerSelected (selection : ProviderSelection)
  | authnFailed (provider : String)
  | requesterError
  | fraudDetected (provider : String)
  | registrationPaused
  | countrySelected (selection : CountrySelection)
  | countryAuthnFailed (country : String) (levels : List Level)
  | matchRequested (family : Family) (stage : Stage) (request : MatchRequest)
  | awaitingCycle3 (family : Family) (identity : Identity)
  | cycle3Cancelled
  | accountCreated (outcome : MatchOutcome)
  | accountCreationFailed
  | eidasAccountCreationFailed (country : String)
  | matched (family : Family) (outcome : MatchOutcome)
  | unmatched (provider : String)
  | nonMatchingSuccess (assertions : List String)
  | matchingFailed (provider : String)
  | timedOut
  deriving DecidableEq

structure Session where
  envelope : Envelope
  state : State
  deriving DecidableEq

namespace Session

def id (s : Session) : SessionId :=
  s.envelope.sessionId

/-- The session in another state. -/
def withState (s : Session) (state : State) : Session :=
  { s with state := state }

/-- Past its deadline, which itself still counts. -/
def isExpiredAt (s : Session) (now : Instant) : Bool :=
  decide (s.envelope.expiry < now)

@[simp] theorem state_withState (s : Session) (state : State) :
    (s.withState state).state = state := rfl

end Session

end SignInJourney
