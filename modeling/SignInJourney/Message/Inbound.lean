import SignInJourney.Session.Document

/-!
What reaches the hub, decoded and verified: requests from transactions, the user's choices, and the
answers of identity providers, countries and the matching service. Assertions in them stay
encrypted.
-/

namespace SignInJourney

open Time

/-- A transaction asks for a user to be signed in. -/
structure AuthnRequest where
  requestId : String
  issuer : String
  consumerUri : String
  forceAuthentication : Option Bool
  relayState : Option String
  /-- The user's address as the hub sees it. -/
  ip : String
  deriving DecidableEq, Repr

namespace AuthnRequest

def names : List String :=
  ["request_id", "issuer", "assertion_consumer_service_uri", "force_authentication", "relay_state",
    "principal_ip_address_as_seen_by_hub"]

instance : ToTree AuthnRequest where
  toTree v := .record
    [("request_id", toTree v.requestId), ("issuer", toTree v.issuer),
      ("assertion_consumer_service_uri", toTree v.consumerUri),
      ("force_authentication", toTree v.forceAuthentication),
      ("relay_state", toTree v.relayState),
      ("principal_ip_address_as_seen_by_hub", toTree v.ip)]

instance : OfTree AuthnRequest where
  ofTree? e t := do
    let m ← Members.ofTree? e names .lenient t
    some
      { requestId := ← m.required "request_id"
        issuer := ← m.required "issuer"
        consumerUri := ← m.required "assertion_consumer_service_uri"
        forceAuthentication := ← m.withDefault "force_authentication" none
        relayState := ← m.withDefault "relay_state" none
        ip := ← m.required "principal_ip_address_as_seen_by_hub" }

end AuthnRequest

/-- The user picks an identity provider. -/
structure ProviderChoice where
  provider : String
  ip : String
  registering : Bool
  requested : Level
  deriving DecidableEq, Repr

inductive ProviderStatus where
  | success
  | noAuthenticationContext
  | authenticationCancelled
  | authenticationFailed
  | requesterError
  | upliftFailed
  | authenticationPending
  deriving DecidableEq, Repr

namespace ProviderStatus

def name : ProviderStatus → String
  | .success => "Success"
  | .noAuthenticationContext => "NoAuthenticationContext"
  | .authenticationCancelled => "AuthenticationCancelled"
  | .authenticationFailed => "AuthenticationFailed"
  | .requesterError => "RequesterError"
  | .upliftFailed => "UpliftFailed"
  | .authenticationPending => "AuthenticationPending"

instance : Vocabulary ProviderStatus where
  all := [.success, .noAuthenticationContext, .authenticationCancelled, .authenticationFailed,
    .requesterError, .upliftFailed, .authenticationPending]
  word := name
  find_word a := by cases a <;> rfl

end ProviderStatus

/-- An identity provider answers. -/
structure ProviderResponse where
  issuer : String
  status : ProviderStatus
  statusMessage : Option String
  level : Option Level
  persistentId : Option String
  matchingDataset : Option String
  authnStatement : Option String
  /-- The user's address as the provider saw it. -/
  ipSeenByProvider : Option String
  fraudEventId : Option String
  fraudIndicator : Option String
  notOnOrAfter : Option Instant
  ip : String
  deriving DecidableEq, Repr

namespace ProviderResponse

/-- Providers report fraud by asserting the marker level. -/
def isFraudulent (r : ProviderResponse) : Bool :=
  r.level.any Level.isFraudMarker

def names : List String :=
  ["issuer", "status", "status_message", "level_of_assurance", "persistent_id",
    "encrypted_matching_dataset_assertion", "encrypted_authn_assertion",
    "principal_ip_address_as_seen_by_idp", "idp_fraud_event_id", "fraud_indicator",
    "not_on_or_after", "principal_ip_address_as_seen_by_hub"]

instance : ToTree ProviderResponse where
  toTree v := .record
    [("issuer", toTree v.issuer), ("status", toTree v.status),
      ("status_message", toTree v.statusMessage), ("level_of_assurance", toTree v.level),
      ("persistent_id", toTree v.persistentId),
      ("encrypted_matching_dataset_assertion", toTree v.matchingDataset),
      ("encrypted_authn_assertion", toTree v.authnStatement),
      ("principal_ip_address_as_seen_by_idp", toTree v.ipSeenByProvider),
      ("idp_fraud_event_id", toTree v.fraudEventId), ("fraud_indicator", toTree v.fraudIndicator),
      ("not_on_or_after", toTree v.notOnOrAfter),
      ("principal_ip_address_as_seen_by_hub", toTree v.ip)]

instance : OfTree ProviderResponse where
  ofTree? e t := do
    let m ← Members.ofTree? e names .lenient t
    some
      { issuer := ← m.required "issuer"
        status := ← m.required "status"
        statusMessage := ← m.withDefault "status_message" none
        level := ← m.withDefault "level_of_assurance" none
        persistentId := ← m.withDefault "persistent_id" none
        matchingDataset := ← m.withDefault "encrypted_matching_dataset_assertion" none
        authnStatement := ← m.withDefault "encrypted_authn_assertion" none
        ipSeenByProvider := ← m.withDefault "principal_ip_address_as_seen_by_idp" none
        fraudEventId := ← m.withDefault "idp_fraud_event_id" none
        fraudIndicator := ← m.withDefault "fraud_indicator" none
        notOnOrAfter := ← m.withDefault "not_on_or_after" none
        ip := ← m.required "principal_ip_address_as_seen_by_hub" }

end ProviderResponse

inductive CountryStatus where
  | success
  | failure
  | requesterError
  | noAuthenticationContext
  deriving DecidableEq, Repr

namespace CountryStatus

def name : CountryStatus → String
  | .success => "Success"
  | .failure => "Failure"
  | .requesterError => "RequesterError"
  | .noAuthenticationContext => "NoAuthenticationContext"

instance : Vocabulary CountryStatus where
  all := [.success, .failure, .requesterError, .noAuthenticationContext]
  word := name
  find_word a := by cases a <;> rfl

end CountryStatus

/-- A country answers. -/
structure CountryResponse where
  issuer : String
  status : CountryStatus
  statusMessage : Option String
  level : Option Level
  persistentId : Option String
  identityAssertion : Option String
  ip : String
  deriving DecidableEq, Repr

namespace CountryResponse

def names : List String :=
  ["issuer", "status", "status_message", "level_of_assurance", "persistent_id",
    "encrypted_identity_assertion", "principal_ip_address_as_seen_by_hub"]

instance : ToTree CountryResponse where
  toTree v := .record
    [("issuer", toTree v.issuer), ("status", toTree v.status),
      ("status_message", toTree v.statusMessage), ("level_of_assurance", toTree v.level),
      ("persistent_id", toTree v.persistentId),
      ("encrypted_identity_assertion", toTree v.identityAssertion),
      ("principal_ip_address_as_seen_by_hub", toTree v.ip)]

instance : OfTree CountryResponse where
  ofTree? e t := do
    let m ← Members.ofTree? e names .lenient t
    some
      { issuer := ← m.required "issuer"
        status := ← m.required "status"
        statusMessage := ← m.withDefault "status_message" none
        level := ← m.withDefault "level_of_assurance" none
        persistentId := ← m.withDefault "persistent_id" none
        identityAssertion := ← m.withDefault "encrypted_identity_assertion" none
        ip := ← m.required "principal_ip_address_as_seen_by_hub" }

end CountryResponse

inductive MatchingStatus where
  | matched
  | unmatched
  | accountCreated
  | accountCreationFailed
  | requesterError
  deriving DecidableEq, Repr

namespace MatchingStatus

def name : MatchingStatus → String
  | .matched => "Match"
  | .unmatched => "NoMatch"
  | .accountCreated => "UserAccountCreated"
  | .accountCreationFailed => "UserAccountCreationFailed"
  | .requesterError => "RequesterError"

instance : Vocabulary MatchingStatus where
  all := [.matched, .unmatched, .accountCreated, .accountCreationFailed, .requesterError]
  word := name
  find_word a := by cases a <;> rfl

end MatchingStatus

/-- The matching service answers. -/
structure MatchingResponse where
  issuer : String
  /-- The id of the request that it answers. -/
  inResponseTo : String
  status : MatchingStatus
  assertion : Option String
  level : Option Level
  deriving DecidableEq, Repr

namespace MatchingResponse

def names : List String :=
  ["issuer", "in_response_to", "status", "encrypted_matching_service_assertion",
    "level_of_assurance"]

instance : ToTree MatchingResponse where
  toTree v := .record
    [("issuer", toTree v.issuer), ("in_response_to", toTree v.inResponseTo),
      ("status", toTree v.status), ("encrypted_matching_service_assertion", toTree v.assertion),
      ("level_of_assurance", toTree v.level)]

instance : OfTree MatchingResponse where
  ofTree? e t := do
    let m ← Members.ofTree? e names .lenient t
    some
      { issuer := ← m.required "issuer"
        inResponseTo := ← m.required "in_response_to"
        status := ← m.required "status"
        assertion := ← m.withDefault "encrypted_matching_service_assertion" none
        level := ← m.withDefault "level_of_assurance" none }

end MatchingResponse

/-- The user types in the attribute that was asked for. -/
structure Cycle3Input where
  value : String
  ip : String
  deriving DecidableEq, Repr

namespace Cycle3Input

def names : List String :=
  ["cycle3_input", "principal_ip_address_as_seen_by_hub"]

instance : ToTree Cycle3Input where
  toTree v := .record
    [("cycle3_input", toTree v.value), ("principal_ip_address_as_seen_by_hub", toTree v.ip)]

instance : OfTree Cycle3Input where
  ofTree? e t := do
    let m ← Members.ofTree? e names .lenient t
    some
      { value := ← m.required "cycle3_input"
        ip := ← m.required "principal_ip_address_as_seen_by_hub" }

end Cycle3Input

end SignInJourney
