import SignInJourney.Session.Document

/-!
What the hub hands out: the next page for the front end, the request for an identity provider or a
country, and the response for the transaction. Ids of responses are drawn when they are handed over
and are no part of them here.
-/

namespace SignInJourney

open Time

/-- How an authentication ended, for the front end. -/
inductive FrontendResult where
  | success
  | matchingJourneySuccess
  | nonMatchingJourneySuccess
  | cancel
  | failedUplift
  | pending
  | other
  deriving DecidableEq, Repr

namespace FrontendResult

def name : FrontendResult → String
  | .success => "SUCCESS"
  | .matchingJourneySuccess => "MATCHING_JOURNEY_SUCCESS"
  | .nonMatchingJourneySuccess => "NON_MATCHING_JOURNEY_SUCCESS"
  | .cancel => "CANCEL"
  | .failedUplift => "FAILED_UPLIFT"
  | .pending => "PENDING"
  | .other => "OTHER"

instance : Vocabulary FrontendResult where
  all := [.success, .matchingJourneySuccess, .nonMatchingJourneySuccess, .cancel, .failedUplift,
    .pending, .other]
  word := name
  find_word a := by cases a <;> rfl

end FrontendResult

/-- What the front end does after an authentication response. -/
structure ResponseAction where
  session : SessionId
  result : FrontendResult
  registering : Bool
  achieved : Option Level
  deriving DecidableEq, Repr

namespace ResponseAction

def success (session : SessionId) (registering : Bool) (level : Level) : ResponseAction :=
  ⟨session, .success, registering, some level⟩

def matchingJourneySuccess (session : SessionId) (registering : Bool) (level : Level) :
    ResponseAction :=
  ⟨session, .matchingJourneySuccess, registering, some level⟩

def nonMatchingJourneySuccess (session : SessionId) (registering : Bool) (level : Level) :
    ResponseAction :=
  ⟨session, .nonMatchingJourneySuccess, registering, some level⟩

def cancel (session : SessionId) (registering : Bool) : ResponseAction :=
  ⟨session, .cancel, registering, none⟩

def failedUplift (session : SessionId) (registering : Bool) : ResponseAction :=
  ⟨session, .failedUplift, registering, none⟩

/-- Only a registration is ever paused. -/
def pending (session : SessionId) : ResponseAction :=
  ⟨session, .pending, true, none⟩

def other (session : SessionId) (registering : Bool) : ResponseAction :=
  ⟨session, .other, registering, none⟩

def names : List String :=
  ["session_id", "result", "is_registration", "loa_achieved"]

instance : ToTree ResponseAction where
  toTree v := .record
    [("session_id", toTree v.session), ("result", toTree v.result),
      ("is_registration", toTree v.registering), ("loa_achieved", toTree v.achieved)]

instance : OfTree ResponseAction where
  ofTree? e t := do
    let m ← Members.ofTree? e names .lenient t
    some
      { session := ← m.required "session_id"
        result := ← m.required "result"
        registering := ← m.required "is_registration"
        achieved := ← m.named "loa_achieved" }

end ResponseAction

/-- The next step of a session, for the front end that polls it. -/
inductive NextStep where
  | gotoHubLandingPage
  | wait
  | getCycle3Data
  | sendSuccessfulMatchResponse
  | sendNoMatchResponse
  | sendAccountCreatedResponse
  | showMatchingErrorPage
  | accountCreationFailed
  | sendNonMatchingSuccessResponse
  deriving DecidableEq, Repr

namespace NextStep

def name : NextStep → String
  | .gotoHubLandingPage => "GOTO_HUB_LANDING_PAGE"
  | .wait => "WAIT"
  | .getCycle3Data => "GET_C3_DATA"
  | .sendSuccessfulMatchResponse => "SEND_SUCCESSFUL_MATCH_RESPONSE_TO_TRANSACTION"
  | .sendNoMatchResponse => "SEND_NO_MATCH_RESPONSE_TO_TRANSACTION"
  | .sendAccountCreatedResponse => "SEND_USER_ACCOUNT_CREATED_RESPONSE_TO_TRANSACTION"
  | .showMatchingErrorPage => "SHOW_MATCHING_ERROR_PAGE"
  | .accountCreationFailed => "USER_ACCOUNT_CREATION_FAILED"
  | .sendNonMatchingSuccessResponse =>
    "SEND_NON_MATCHING_JOURNEY_SUCCESS_RESPONSE_TO_TRANSACTION"

instance : Vocabulary NextStep where
  all := [.gotoHubLandingPage, .wait, .getCycle3Data, .sendSuccessfulMatchResponse,
    .sendNoMatchResponse, .sendAccountCreatedResponse, .showMatchingErrorPage,
    .accountCreationFailed, .sendNonMatchingSuccessResponse]
  word := name
  find_word a := by cases a <;> rfl

end NextStep

structure ProcessingDetails where
  session : SessionId
  step : NextStep
  transaction : String
  deriving DecidableEq, Repr

namespace ProcessingDetails

def names : List String :=
  ["session_id", "response_processing_status", "transaction_entity_id"]

instance : ToTree ProcessingDetails where
  toTree v := .record
    [("session_id", toTree v.session), ("response_processing_status", toTree v.step),
      ("transaction_entity_id", toTree v.transaction)]

instance : OfTree ProcessingDetails where
  ofTree? e t := do
    let m ← Members.ofTree? e names .lenient t
    some
      { session := ← m.required "session_id"
        step := ← m.required "response_processing_status"
        transaction := ← m.required "transaction_entity_id" }

end ProcessingDetails

/-- What the front end shows the sign-in choices from. -/
structure SignInDetails where
  issuer : String
  supportsEidas : Bool
  deriving DecidableEq, Repr

namespace SignInDetails

def names : List String :=
  ["request_issuer_id", "transaction_supports_eidas"]

instance : ToTree SignInDetails where
  toTree v := .record
    [("request_issuer_id", toTree v.issuer), ("transaction_supports_eidas", toTree v.supportsEidas)]

instance : OfTree SignInDetails where
  ofTree? e t := do
    let m ← Members.ofTree? e names .lenient t
    some
      { issuer := ← m.required "request_issuer_id"
        supportsEidas := ← m.required "transaction_supports_eidas" }

end SignInDetails

/-- The hub asks an identity provider or a country to authenticate the user. -/
structure HubRequest where
  id : String
  levels : List Level
  exactComparison : Bool
  recipient : String
  forceAuthentication : Option Bool
  expiry : Instant
  registering : Bool
  ssoUrl : Option String
  deriving DecidableEq, Repr

namespace HubRequest

def names : List String :=
  ["id", "levels_of_assurance", "use_exact_comparison_type", "recipient_entity_id",
    "force_authentication", "session_expiry_timestamp", "registering", "overridden_sso_url"]

instance : ToTree HubRequest where
  toTree v := .record
    [("id", toTree v.id), ("levels_of_assurance", toTree v.levels),
      ("use_exact_comparison_type", toTree v.exactComparison),
      ("recipient_entity_id", toTree v.recipient),
      ("force_authentication", toTree v.forceAuthentication),
      ("session_expiry_timestamp", toTree v.expiry), ("registering", toTree v.registering),
      ("overridden_sso_url", toTree v.ssoUrl)]

instance : OfTree HubRequest where
  ofTree? e t := do
    let m ← Members.ofTree? e names .lenient t
    some
      { id := ← m.required "id"
        levels := ← m.required "levels_of_assurance"
        exactComparison := ← m.required "use_exact_comparison_type"
        recipient := ← m.required "recipient_entity_id"
        forceAuthentication := ← m.named "force_authentication"
        expiry := ← m.required "session_expiry_timestamp"
        registering := ← m.required "registering"
        ssoUrl := ← m.withDefault "overridden_sso_url" none }

end HubRequest

/-- The attribute that a transaction wants typed in. -/
structure Cycle3Question where
  attributeName : String
  issuer : String
  deriving DecidableEq, Repr

namespace Cycle3Question

def names : List String :=
  ["attribute_name", "request_issuer_id"]

instance : ToTree Cycle3Question where
  toTree v := .record
    [("attribute_name", toTree v.attributeName), ("request_issuer_id", toTree v.issuer)]

instance : OfTree Cycle3Question where
  ofTree? e t := do
    let m ← Members.ofTree? e names .lenient t
    some
      { attributeName := ← m.required "attribute_name"
        issuer := ← m.required "request_issuer_id" }

end Cycle3Question

/-- How a journey ended, for the transaction. -/
inductive TransactionStatus where
  | success
  | noAuthenticationContext
  | noMatch
  | authenticationFailed
  | requesterError
  deriving DecidableEq, Repr

namespace TransactionStatus

def name : TransactionStatus → String
  | .success => "Success"
  | .noAuthenticationContext => "NoAuthenticationContext"
  | .noMatch => "NoMatchingServiceMatchFromHub"
  | .authenticationFailed => "AuthenticationFailed"
  | .requesterError => "RequesterError"

instance : Vocabulary TransactionStatus where
  all := [.success, .noAuthenticationContext, .noMatch, .authenticationFailed, .requesterError]
  word := name
  find_word a := by cases a <;> rfl

end TransactionStatus

/-- The response to a transaction, to be signed and sent. -/
structure HubResponse where
  inResponseTo : String
  issuer : String
  assertions : List String
  relayState : Option String
  consumerUri : String
  status : TransactionStatus
  deriving DecidableEq, Repr

namespace HubResponse

/-- The response to the request in an envelope. -/
def answering (envelope : Envelope) (status : TransactionStatus) (assertions : List String) :
    HubResponse :=
  { inResponseTo := envelope.requestId
    issuer := envelope.issuer
    assertions := assertions
    relayState := envelope.relayState
    consumerUri := envelope.consumerUri
    status := status }

/-- The user was matched: what the matching service asserts. -/
def success (envelope : Envelope) (assertion : String) : HubResponse :=
  answering envelope .success [assertion]

/-- The user was authenticated and not matched: what the provider or the country asserts. -/
def nonMatchingSuccess (envelope : Envelope) (assertions : List String) : HubResponse :=
  answering envelope .success assertions

def noAuthnContext (envelope : Envelope) : HubResponse :=
  answering envelope .noAuthenticationContext []

def noMatch (envelope : Envelope) : HubResponse :=
  answering envelope .noMatch []

def authnFailed (envelope : Envelope) : HubResponse :=
  answering envelope .authenticationFailed []

def requesterError (envelope : Envelope) : HubResponse :=
  answering envelope .requesterError []

end HubResponse

/-- A response under the id that was drawn for it. -/
structure IssuedResponse where
  id : String
  response : HubResponse
  deriving DecidableEq, Repr

namespace IssuedResponse

def names : List String :=
  ["response_id", "in_response_to", "authn_request_issuer_entity_id", "encrypted_assertions",
    "relay_state", "assertion_consumer_service_uri", "status"]

instance : ToTree IssuedResponse where
  toTree v := .record
    [("response_id", toTree v.id), ("in_response_to", toTree v.response.inResponseTo),
      ("authn_request_issuer_entity_id", toTree v.response.issuer),
      ("encrypted_assertions", toTree v.response.assertions),
      ("relay_state", toTree v.response.relayState),
      ("assertion_consumer_service_uri", toTree v.response.consumerUri),
      ("status", toTree v.response.status)]

instance : OfTree IssuedResponse where
  ofTree? e t := do
    let m ← Members.ofTree? e names .lenient t
    some
      { id := ← m.required "response_id"
        response :=
          { inResponseTo := ← m.required "in_response_to"
            issuer := ← m.required "authn_request_issuer_entity_id"
            assertions := ← m.required "encrypted_assertions"
            relayState := ← m.withDefault "relay_state" none
            consumerUri := ← m.required "assertion_consumer_service_uri"
            status := ← m.required "status" } }

end IssuedResponse

end SignInJourney
