import SignInJourney.Directory.Basic
import SignInJourney.Message.Inbound

/-!
Why an operation is refused. Each cause has a kind, under which front ends handle it, and a message.
-/

namespace SignInJourney

open Time

/-- An event that does not fit what the session or the directory holds. -/
inductive Invalidity where
  | wrongIssuer (requestId actual expected : String)
  | wrongRequest (requestId inResponseTo : String)
  | unavailableProvider (session : SessionId) (provider : String)
  | noLevel
  | wrongLevel (actual : Option Level) (expected : List Level)
  | unregisteredLevel (transaction : String) (levels : List Level) (requested : Level)
  | unofferedLevel (requestId : String) (level : Level) (provider : String)
  | noRegisteredLevels (transaction : String)
  | countryNotEnabled (country : String)
  | undecodable (requestId status : String)
  | missingAttribute (requestId name : String)
  | noCycle3Attribute (transaction : String)
  | unexpectedAnswer (status : MatchingStatus) (requestId : String) (kind : StateKind)
  /-- A cause that a front end words itself. -/
  | stated (message : String)
  deriving DecidableEq, Repr

namespace Invalidity

/-- A level that may be absent, as messages quote it. -/
def quoteLevel : Option Level → String
  | some level => level.name
  | none => "null"

def message : Invalidity → String
  | .wrongIssuer requestId actual expected =>
    s!"Response to request ID [{requestId}] came from [{actual}] and was expected to come from " ++
      s!"[{expected}]"
  | .wrongRequest requestId inResponseTo =>
    s!"Response to request ID [{requestId}] was in response to [{inResponseTo}]"
  | .unavailableProvider session provider =>
    s!"Available Identity Provider for session ID [{session.hex}] not found for entity ID " ++
      s!"[{provider}]."
  | .noLevel => "No level of assurance in the response."
  | .wrongLevel actual expected =>
    "Level of assurance in the response does not match level of assurance in the request. " ++
      s!"Was [{quoteLevel actual}] but expected [{Level.quoteAll expected}]."
  | .unregisteredLevel transaction levels requested =>
    "Requested Level Of Assurance unsupported by Transaction Entity. Transaction Entity: " ++
      s!"{transaction}, transaction LOAs {Level.quoteAll levels}, requested LOA: {requested.name}"
  | .unofferedLevel requestId level provider =>
    s!"Response to request ID [{requestId}] contains LOA {level.name} we do not accept from IDP " ++
      s!"[{provider}]"
  | .noRegisteredLevels transaction =>
    s!"Transaction {transaction} has no registered levels of assurance"
  | .countryNotEnabled country => s!"Country with entity id {country} is not enabled for eidas"
  | .undecodable requestId status =>
    s!"Authn translation for request {requestId} failed with status {status}"
  | .missingAttribute requestId name =>
    s!"Authn translation for request {requestId} failed with missing mandatory attribute {name}"
  | .noCycle3Attribute transaction =>
    s!"Transaction {transaction} does not declare a cycle 3 attribute"
  | .unexpectedAnswer status requestId kind =>
    s!"Matching service response {status.name} to request ID [{requestId}] is not valid in " ++
      s!"state {kind.name}"
  | .stated message => message

end Invalidity

inductive Refusal where
  | invalid (cause : Invalidity)
  /-- The session is in a state without the capability that the event asks for. -/
  | unsupported (session : SessionId) (needed : Capability) (found : StateKind)
  | notFound (session : SessionId)
  | timedOut (session : SessionId) (transaction : String) (expiry : Instant) (requestId : String)
  /-- The identity provider may not be used any more. -/
  | disabled (provider : String)
  | directory (error : DirectoryError)
  /-- The stored record cannot be read. -/
  | unreadable (session : SessionId)
  /-- A failure that a front end words itself. -/
  | stated (message : String)
  deriving DecidableEq, Repr

namespace Refusal

/-- The name that front ends handle a refusal by. -/
def kind : Refusal → String
  | .invalid _ => "state_processing_validation"
  | .unsupported _ _ _ => "invalid_state"
  | .notFound _ => "session_not_found"
  | .timedOut _ _ _ _ => "session_timeout"
  | .disabled _ => "idp_disabled"
  | .directory _ | .unreadable _ | .stated _ => "internal"

def message : Refusal → String
  | .invalid cause => cause.message
  | .unsupported session needed found =>
    s!"Session {session.hex} is in state {found.name}, which does not support {needed.name}"
  | .notFound session => s!"Session {session.hex} not found"
  | .timedOut session transaction expiry requestId =>
    s!"Session {session.hex} for transaction {transaction} and request {requestId} timed out at " ++
      expiry.displayText
  | .disabled provider => s!"Identity provider {provider} is disabled"
  | .directory error => error.message
  | .unreadable session => s!"Failed to load session {session.hex}"
  | .stated message => message

def isValidation : Refusal → Bool
  | .invalid _ => true
  | _ => false

/-- The refusal of a session that is past its deadline. -/
def timeoutOf (s : Session) : Refusal :=
  .timedOut s.id s.envelope.issuer s.envelope.expiry s.envelope.requestId

end Refusal

/-- How an operation can fail. -/
inductive Failure where
  | refused (refusal : Refusal)
  /-- An instant or a span that has to be computed is outside what can be represented. -/
  | outOfRange
  deriving DecidableEq, Repr

namespace Failure

/-- The answer of the directory, or its error as a refusal. -/
def ofDirectory {α : Type} : Except DirectoryError α → Except Failure α
  | .ok a => .ok a
  | .error e => .error (.refused (.directory e))

def ofInvalidity {α : Type} : Except Invalidity α → Except Failure α
  | .ok a => .ok a
  | .error e => .error (.refused (.invalid e))

/-- An instant that has to be representable. -/
def inRange {α : Type} : Option α → Except Failure α
  | some a => .ok a
  | none => .error .outOfRange

end Failure

end SignInJourney
