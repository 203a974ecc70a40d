import SignInJourney.Session.State

/-!
The kind of a state, which is its name without its contents, and the capabilities that a state of a
kind offers. An event asks for a capability, never for a kind.
-/

namespace SignInJourney

inductive StateKind where
  | sessionStarted
  | idpSelected
  | authnFailedError
  | requesterError
  | fraudEventDetected
  | pausedRegistration
  | eidasCountrySelected
  | eidasAuthnFailedError
  | cycle0And1MatchRequestSent
  | eidasCycle0And1MatchRequestSent
  | awaitingCycle3Data
  | eidasAwaitingCycle3Data
  | cycle3MatchRequestSent
  | eidasCycle3MatchRequestSent
  | cycle3DataInputCancelled
  | userAccountCreationRequestSent
  | eidasUserAccountCreationRequestSent
  | userAccountCreated
  | userAccountCreationFailed
  | eidasUserAccountCreationFailed
  | successfulMatch
  | eidasSuccessfulMatch
  | noMatch
  | nonMatchingJourneySuccess
  | matchingServiceRequestError
  | timeout
  deriving DecidableEq, Repr

namespace StateKind

def name : StateKind → String
  | .sessionStarted => "SessionStarted"
  | .idpSelected => "IdpSelected"
  | .authnFailedError => "AuthnFailedError"
  | .requesterError => "RequesterError"
  | .fraudEventDetected => "FraudEventDetected"
  | .pausedRegistration => "PausedRegistration"
  | .eidasCountrySelected => "EidasCountrySelected"
  | .eidasAuthnFailedError => "EidasAuthnFailedError"
  | .cycle0And1MatchRequestSent => "Cycle0And1MatchRequestSent"
  | .eidasCycle0And1MatchRequestSent => "EidasCycle0And1MatchRequestSent"
  | .awaitingCycle3Data => "AwaitingCycle3Data"
  | .eidasAwaitingCycle3Data => "EidasAwaitingCycle3Data"
  | .cycle3MatchRequestSent => "Cycle3MatchRequestSent"
  | .eidasCycle3MatchRequestSent => "EidasCycle3MatchRequestSent"
  | .cycle3DataInputCancelled => "Cycle3DataInputCancelled"
  | .userAccountCreationRequestSent => "UserAccountCreationRequestSent"
  | .eidasUserAccountCreationRequestSent => "EidasUserAccountCreationRequestSent"
  | .userAccountCreated => "UserAccountCreated"
  | .userAccountCreationFailed => "UserAccountCreationFailed"
  | .eidasUserAccountCreationFailed => "EidasUserAccountCreationFailed"
  | .successfulMatch => "SuccessfulMatch"
  | .eidasSuccessfulMatch => "EidasSuccessfulMatch"
  | .noMatch => "NoMatch"
  | .nonMatchingJourneySuccess => "NonMatchingJourneySuccess"
  | .matchingServiceRequestError => "MatchingServiceRequestError"
  | .timeout => "Timeout"

instance : Vocabulary StateKind where
  all := [.sessionStarted, .idpSelected, .authnFailedError, .requesterError, .fraudEventDetected,
    .pausedRegistration, .eidasCountrySelected, .eidasAuthnFailedError,
    .cycle0And1MatchRequestSent, .eidasCycle0And1MatchRequestSent, .awaitingCycle3Data,
    .eidasAwaitingCycle3Data, .cycle3MatchRequestSent, .eidasCycle3MatchRequestSent,
    .cycle3DataInputCancelled, .userAccountCreationRequestSent,
    .eidasUserAccountCreationRequestSent, .userAccountCreated, .userAccountCreationFailed,
    .eidasUserAccountCreationFailed, .successfulMatch, .eidasSuccessfulMatch, .noMatch,
    .nonMatchingJourneySuccess, .matchingServiceRequestError, .timeout]
  word := name
  find_word a := by cases a <;> rfl

end StateKind

/-- What a state may let happen next. -/
inductive Capability where
  /-- The user may pick a domestic identity provider. -/
  | idpSelecting
  /-- The user may pick an eIDAS country. -/
  | countrySelecting
  /-- The front end may ask for the next step. -/
  | responseProcessing
  /-- The matching service is expected to answer. -/
  | waitingForMatchingServiceResponse
  /-- The final answer to the transaction can be put together. -/
  | responsePrepared
  /-- An error can be answered to the transaction. -/
  | errorResponsePrepared
  | eidasUnsuccessfulJourney
  /-- The journey may go back to its start. -/
  | restartJourney
  /-- The user is being asked for cycle-3 data. -/
  | awaitingCycle3Data
  deriving DecidableEq, Repr

namespace Capability

def name : Capability → String
  | .idpSelecting => "idp_selecting"
  | .countrySelecting => "country_selecting"
  | .responseProcessing => "response_processing"
  | .waitingForMatchingServiceResponse => "waiting_for_matching_service_response"
  | .responsePrepared => "response_prepared"
  | .errorResponsePrepared => "error_response_prepared"
  | .eidasUnsuccessfulJourney => "eidas_unsuccessful_journey"
  | .restartJourney => "restart_journey"
  | .awaitingCycle3Data => "awaiting_cycle3_data"

instance : Vocabulary Capability where
  all := [.idpSelecting, .countrySelecting, .responseProcessing,
    .waitingForMatchingServiceResponse, .responsePrepared, .errorResponsePrepared,
    .eidasUnsuccessfulJourney, .restartJourney, .awaitingCycle3Data]
  word := name
  find_word a := by cases a <;> rfl

/-- Lets an event move the session on. -/
def isProgress : Capability → Bool
  | .idpSelecting | .countrySelecting | .waitingForMatchingServiceResponse | .restartJourney
  | .awaitingCycle3Data => true
  | _ => false

end Capability

namespace State

def kind : State → StateKind
  | .sessionStarted _ => .sessionStarted
  | .providerSelected _ => .idpSelected
  | .authnFailed _ => .authnFailedError
  | .requesterError => .requesterError
  | .fraudDetected _ => .fraudEventDetected
  | .registrationPaused => .pausedRegistration
  | .countrySelected _ => .eidasCountrySelected
  | .countryAuthnFailed _ _ => .eidasAuthnFailedError
  | .matchRequested .domestic .cycle01 _ => .cycle0And1MatchRequestSent
  | .matchRequested .eidas .cycle01 _ => .eidasCycle0And1MatchRequestSent
  | .matchRequested .domestic .cycle3 _ => .cycle3MatchRequestSent
  | .matchRequested .eidas .cycle3 _ => .eidasCycle3MatchRequestSent
  | .matchRequested .domestic .accountCreation _ => .userAccountCreationRequestSent
  | .matchRequested .eidas .accountCreation _ => .eidasUserAccountCreationRequestSent
  | .awaitingCycle3 .domestic _ => .awaitingCycle3Data
  | .awaitingCycle3 .eidas _ => .eidasAwaitingCycle3Data
  | .cycle3Cancelled => .cycle3DataInputCancelled
  | .accountCreated _ => .userAccountCreated
  | .accountCreationFailed => .userAccountCreationFailed
  | .eidasAccountCreationFailed _ => .eidasUserAccountCreationFailed
  | .matched .domestic _ => .successfulMatch
  | .matched .eidas _ => .eidasSuccessfulMatch
  | .unmatched _ => .noMatch
  | .nonMatchingSuccess _ => .nonMatchingJourneySuccess
  | .matchingFailed _ => .matchingServiceRequestError
  | .timedOut => .timeout

/-- The capabilities of a state, in the order in which they are declared for it. -/
def capabilities : State → List Capability
  | .sessionStarted _ =>
    [.idpSelecting, .countrySelecting, .responseProcessing, .errorResponsePrepared]
  | .providerSelected _ => [.idpSelecting, .restartJourney, .errorResponsePrepared]
  | .authnFailed _ | .requesterError | .fraudDetected _ =>
    [.idpSelecting, .responsePrepared, .errorResponsePrepared, .restartJourney]
  | .registrationPaused => [.responsePrepared, .restartJourney]
  | .countrySelected _ => [.countrySelecting, .restartJourney, .errorResponsePrepared]
  | .countryAuthnFailed _ _ =>
    [.eidasUnsuccessfulJourney, .restartJourney, .countrySelecting, .responsePrepared]
  | .matchRequested _ _ _ =>
    [.responseProcessing, .waitingForMatchingServiceResponse, .errorResponsePrepared]
  | .awaitingCycle3 _ _ => [.responseProcessing, .errorResponsePrepared, .awaitingCycle3Data]
  | .cycle3Cancelled | .accountCreated _ | .accountCreationFailed | .eidasAccountCreationFailed _
  | .matched _ _ | .unmatched _ | .nonMatchingSuccess _ => [.responseProcessing, .responsePrepared]
  | .matchingFailed _ => [.responseProcessing, .errorResponsePrepared]
  | .timedOut => [.errorResponsePrepared]

def supports (s : State) (c : Capability) : Bool :=
  s.capabilities.contains c

/-- No event can move the session on. -/
def isTerminal (s : State) : Bool :=
  !s.capabilities.any Capability.isProgress

/-- On the cross-border journey. -/
def isEidas : State → Bool
  | .countrySelected _ | .countryAuthnFailed _ _ | .matchRequested .eidas _ _
  | .awaitingCycle3 .eidas _ | .eidasAccountCreationFailed _ | .matched .eidas _ => true
  | _ => false

/-- The level that was achieved, in the states that a transaction may ask. -/
def achievedLevel? : State → Option Level
  | .matchRequested .domestic .cycle01 r => some r.identity.level
  | .awaitingCycle3 .domestic i => some i.level
  | .matched .domestic o => some o.level
  | .accountCreated o => some o.level
  | _ => none

end State

namespace Session

def kind (s : Session) : StateKind :=
  s.state.kind

end Session

end SignInJourney
