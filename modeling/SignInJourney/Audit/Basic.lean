import SignInJourney.Session.State
import SignInJourney.Time.Rfc3339

/-!
What the hub reports about sessions, and the audit events that it becomes. A report says what
happened; an event adds when, under which service name, and as which details. Ids of events are
drawn when they are delivered and are no part of them here.
-/

namespace SignInJourney

open Time

/-- Milestones of a session, for audit and billing. -/
inductive Milestone where
  | sessionStarted
  | idpSelected
  | countrySelected
  | idpAuthnSucceeded
  | idpAuthnFailed
  | noAuthnContext
  | idpAuthnPending
  | fraudDetected
  | requesterError
  | cycle01Match
  | cycle01NoMatch
  | waitingForCycle3Attributes
  | cycle3DataObtained
  | cycle3Cancel
  | cycle3Match
  | cycle3NoMatch
  | userAccountCreationRequestSent
  | userAccountCreated
  | userAccountCreationFailed
  | sessionTimeout
  deriving DecidableEq, Repr

namespace Milestone

def name : Milestone → String
  | .sessionStarted => "SESSION_STARTED"
  | .idpSelected => "IDP_SELECTED"
  | .countrySelected => "COUNTRY_SELECTED"
  | .idpAuthnSucceeded => "IDP_AUTHN_SUCCEEDED"
  | .idpAuthnFailed => "IDP_AUTHN_FAILED"
  | .noAuthnContext => "NO_AUTHN_CONTEXT"
  | .idpAuthnPending => "IDP_AUTHN_PENDING"
  | .fraudDetected => "FRAUD_DETECTED"
  | .requesterError => "REQUESTER_ERROR"
  | .cycle01Match => "CYCLE01_MATCH"
  | .cycle01NoMatch => "CYCLE01_NO_MATCH"
  | .waitingForCycle3Attributes => "WAITING_FOR_CYCLE3_ATTRIBUTES"
  | .cycle3DataObtained => "CYCLE3_DATA_OBTAINED"
  | .cycle3Cancel => "CYCLE3_CANCEL"
  | .cycle3Match => "CYCLE3_MATCH"
  | .cycle3NoMatch => "CYCLE3_NO_MATCH"
  | .userAccountCreationRequestSent => "USER_ACCOUNT_CREATION_REQUEST_SENT"
  | .userAccountCreated => "USER_ACCOUNT_CREATED"
  | .userAccountCreationFailed => "USER_ACCOUNT_CREATION_FAILED"
  | .sessionTimeout => "SESSION_TIMEOUT"

instance : Vocabulary Milestone where
  all := [.sessionStarted, .idpSelected, .countrySelected, .idpAuthnSucceeded, .idpAuthnFailed,
    .noAuthnContext, .idpAuthnPending, .fraudDetected, .requesterError, .cycle01Match,
    .cycle01NoMatch, .waitingForCycle3Attributes, .cycle3DataObtained, .cycle3Cancel,
    .cycle3Match, .cycle3NoMatch, .userAccountCreationRequestSent, .userAccountCreated,
    .userAccountCreationFailed, .sessionTimeout]
  word := name
  find_word a := by cases a <;> rfl

end Milestone

inductive EventCategory where
  | session
  | hub
  | error
  deriving DecidableEq, Repr

namespace EventCategory

def name : EventCategory → String
  | .session => "SESSION_EVENT"
  | .hub => "HUB_EVENT"
  | .error => "ERROR_EVENT"

instance : Vocabulary EventCategory where
  all := [.session, .hub, .error]
  word := name
  find_word a := by cases a <;> rfl

end EventCategory

inductive DetailKey where
  | sessionEventType
  | sessionExpiryTime
  | transactionEntityId
  | requestId
  | idpEntityId
  | pid
  | minimumLevelOfAssurance
  | requiredLevelOfAssurance
  | providedLevelOfAssurance
  | principalIpAddressAsSeenByHub
  | principalIpAddressAsSeenByIdp
  | messageId
  | message
  | countryCode
  | hubEventType
  | idpFraudEventId
  | gpg45Status
  | errorId
  deriving DecidableEq, Repr

namespace DetailKey

def name : DetailKey → String
  | .sessionEventType => "session_event_type"
  | .sessionExpiryTime => "session_expiry_time"
  | .transactionEntityId => "transaction_entity_id"
  | .requestId => "request_id"
  | .idpEntityId => "idp_entity_id"
  | .pid => "pid"
  | .minimumLevelOfAssurance => "minimum_level_of_assurance"
  | .requiredLevelOfAssurance => "required_level_of_assurance"
  | .providedLevelOfAssurance => "provided_level_of_assurance"
  | .principalIpAddressAsSeenByHub => "principal_ip_address_as_seen_by_hub"
  | .principalIpAddressAsSeenByIdp => "principal_ip_address_as_seen_by_idp"
  | .messageId => "message_id"
  | .message => "message"
  | .countryCode => "country_code"
  | .hubEventType => "hub_event_type"
  | .idpFraudEventId => "idp_fraud_event_id"
  | .gpg45Status => "gpg45_status"
  | .errorId => "error_id"

instance : Vocabulary DetailKey where
  all := [.sessionEventType, .sessionExpiryTime, .transactionEntityId, .requestId, .idpEntityId,
    .pid, .minimumLevelOfAssurance, .requiredLevelOfAssurance, .providedLevelOfAssurance,
    .principalIpAddressAsSeenByHub, .principalIpAddressAsSeenByIdp, .messageId, .message,
    .countryCode, .hubEventType, .idpFraudEventId, .gpg45Status, .errorId]
  word := name
  find_word a := by cases a <;> rfl

end DetailKey

/-- A successful authentication, as billing needs it. -/
structure AuthnSuccess where
  /-- The identity provider or the country. -/
  party : String
  persistentId : String
  minimum : Level
  required : Level
  provided : Level
  ipSeenByProvider : Option String
  ip : String
  deriving DecidableEq, Repr

structure FraudNotice where
  provider : String
  persistentId : String
  eventId : String
  indicator : String
  ipSeenByProvider : Option String
  ip : String
  deriving DecidableEq, Repr

/-- What can happen to a session. -/
inductive Occurrence where
  | started (ip : String) (minimum required : Level)
  /-- An eIDAS journey went back to the start. -/
  | movedToStart
  | providerSelected (provider : String) (levels : List Level) (ip : String)
  | countrySelected (country : String)
  | authnSucceeded (success : AuthnSuccess)
  | authnFailed (ip : String)
  | noAuthnContext (ip : String)
  | registrationPaused (ip : String)
  | requesterError (message : Option String) (ip : String)
  | fraudReported (notice : FraudNotice)
  | cycle01Matched
  | cycle01Unmatched
  | cycle3Asked
  | cycle3Submitted (ip : String)
  | cycle3Cancelled
  | cycle3Matched
  | cycle3Unmatched
  | accountCreationRequested
  | accountCreated
  | accountCreationFailed
  | timedOut
  deriving DecidableEq, Repr

namespace Occurrence

def milestone : Occurrence → Milestone
  | .started _ _ _ | .movedToStart => .sessionStarted
  | .providerSelected _ _ _ => .idpSelected
  | .countrySelected _ => .countrySelected
  | .authnSucceeded _ => .idpAuthnSucceeded
  | .authnFailed _ => .idpAuthnFailed
  | .noAuthnContext _ => .noAuthnContext
  | .registrationPaused _ => .idpAuthnPending
  | .requesterError _ _ => .requesterError
  | .fraudReported _ => .fraudDetected
  | .cycle01Matched => .cycle01Match
  | .cycle01Unmatched => .cycle01NoMatch
  | .cycle3Asked => .waitingForCycle3Attributes
  | .cycle3Submitted _ => .cycle3DataObtained
  | .cycle3Cancelled => .cycle3Cancel
  | .cycle3Matched => .cycle3Match
  | .cycle3Unmatched => .cycle3NoMatch
  | .accountCreationRequested => .userAccountCreationRequestSent
  | .accountCreated => .userAccountCreated
  | .accountCreationFailed => .userAccountCreationFailed
  | .timedOut => .sessionTimeout

/-- The weakest and the strongest level wanted: the first and the last of a list. -/
def levelBounds (levels : List Level) : List (DetailKey × String) :=
  match levels.head?, levels.getLast? with
  | some first, some last =>
    [(.minimumLevelOfAssurance, first.name), (.requiredLevelOfAssurance, last.name)]
  | _, _ => []

/-- A detail that is only there if its value is. -/
def optional (key : DetailKey) : Option String → List (DetailKey × String)
  | some value => [(key, value)]
  | none => []

/-- The details that an occurrence has of its own. -/
def details (requestId : String) : Occurrence → List (DetailKey × String)
  | .started ip minimum required =>
    [(.principalIpAddressAsSeenByHub, ip), (.messageId, requestId),
      (.minimumLevelOfAssurance, minimum.name), (.requiredLevelOfAssurance, required.name)]
  | .providerSelected provider levels ip =>
    [(.idpEntityId, provider), (.principalIpAddressAsSeenByHub, ip)] ++ levelBounds levels
  | .countrySelected country => [(.countryCode, country)]
  | .authnSucceeded s =>
    [(.idpEntityId, s.party), (.pid, s.persistentId), (.minimumLevelOfAssurance, s.minimum.name),
      (.requiredLevelOfAssurance, s.required.name), (.providedLevelOfAssurance, s.provided.name),
      (.principalIpAddressAsSeenByHub, s.ip)] ++
      optional .principalIpAddressAsSeenByIdp s.ipSeenByProvider
  | .authnFailed ip | .noAuthnContext ip | .registrationPaused ip | .cycle3Submitted ip =>
    [(.principalIpAddressAsSeenByHub, ip)]
  | .requesterError message ip =>
    [(.principalIpAddressAsSeenByHub, ip)] ++ optional .message message
  | .fraudReported n =>
    [(.idpEntityId, n.provider), (.pid, n.persistentId), (.idpFraudEventId, n.eventId),
      (.gpg45Status, n.indicator), (.principalIpAddressAsSeenByHub, n.ip)] ++
      optional .principalIpAddressAsSeenByIdp n.ipSeenByProvider
  | .movedToStart | .cycle01Matched | .cycle01Unmatched | .cycle3Asked | .cycle3Cancelled
  | .cycle3Matched | .cycle3Unmatched | .accountCreationRequested | .accountCreated
  | .accountCreationFailed | .timedOut => []

end Occurrence

/-- What the hub has to report. -/
inductive Report where
  | occurrence (envelope : Envelope) (what : Occurrence)
  /-- A request for an identity provider or a country was fetched. -/
  | requestFetched (session : SessionId) (transaction : String)
  | failure (session : SessionId) (message : String)
  deriving DecidableEq, Repr

namespace Report

def session : Report → SessionId
  | .occurrence envelope _ => envelope.sessionId
  | .requestFetched session _ => session
  | .failure session _ => session

def category : Report → EventCategory
  | .occurrence _ _ => .session
  | .requestFetched _ _ => .hub
  | .failure _ _ => .error

/-- Each key at most once. -/
def details : Report → List (DetailKey × String)
  | .occurrence envelope what =>
    what.details envelope.requestId ++
      [(.sessionEventType, what.milestone.name),
        (.sessionExpiryTime, envelope.expiry.offsetText),
        (.transactionEntityId, envelope.issuer), (.requestId, envelope.requestId)]
  | .requestFetched _ transaction =>
    [(.hubEventType, "RECEIVED_AUTHN_REQUEST_FROM_HUB"), (.transactionEntityId, transaction)]
  | .failure _ message => [(.message, message)]

end Report

/-- A report as it goes to the audit trail. -/
structure AuditEvent where
  timestamp : Instant
  /-- The service that reports. -/
  service : String
  session : SessionId
  category : EventCategory
  /-- Each key at most once. -/
  details : List (DetailKey × String)
  deriving DecidableEq, Repr

namespace AuditEvent

/-- A report made by a service at an instant. -/
def ofReport (service : String) (now : Instant) (r : Report) : AuditEvent :=
  { timestamp := now
    service := service
    session := r.session
    category := r.category
    details := r.details }

def detail? (e : AuditEvent) (key : DetailKey) : Option String :=
  e.details.lookup key

/-- The milestone that a session event names. -/
def milestoneName? (e : AuditEvent) : Option String :=
  e.detail? .sessionEventType

end AuditEvent

end SignInJourney
