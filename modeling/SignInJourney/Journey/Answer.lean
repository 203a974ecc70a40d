import SignInJourney.Journey.Basic
import SignInJourney.Message.Outbound

/-! What a session that waits for nobody answers: the response for the transaction, and the next
step. -/

namespace SignInJourney.Journey.Answer

/-- The response that a finished journey has for its transaction. -/
def response? (envelope : Envelope) : State → Option HubResponse
  | .matched _ o | .accountCreated o => some (.success envelope o.assertion)
  | .nonMatchingSuccess assertions => some (.nonMatchingSuccess envelope assertions)
  | .unmatched _ | .cycle3Cancelled => some (.noMatch envelope)
  | .authnFailed _ | .fraudDetected _ | .countryAuthnFailed _ _ => some (.authnFailed envelope)
  | .requesterError => some (.requesterError envelope)
  | .registrationPaused | .accountCreationFailed | .eidasAccountCreationFailed _ =>
    some (.noAuthnContext envelope)
  | _ => none

def prepared (s : Session) : Except Failure HubResponse :=
  match response? s.envelope s.state with
  | some r => .ok r
  | none => .error (.refused (.unsupported s.id .responsePrepared s.kind))

/-- A journey that is given up has no authentication context. -/
def errorResponse (s : Session) : HubResponse :=
  .noAuthnContext s.envelope

def nextStep? : State → Option NextStep
  | .sessionStarted _ => some .gotoHubLandingPage
  | .awaitingCycle3 _ _ => some .getCycle3Data
  | .matched _ _ => some .sendSuccessfulMatchResponse
  | .unmatched _ | .cycle3Cancelled => some .sendNoMatchResponse
  | .accountCreated _ => some .sendAccountCreatedResponse
  | .accountCreationFailed | .eidasAccountCreationFailed _ => some .accountCreationFailed
  | .nonMatchingSuccess _ => some .sendNonMatchingSuccessResponse
  | .matchingFailed _ => some .showMatchingErrorPage
  | _ => none

def processingDetails (s : Session) : Except Failure ProcessingDetails :=
  match nextStep? s.state with
  | some step => .ok { session := s.id, step := step, transaction := s.envelope.issuer }
  | none => .error (.refused (.unsupported s.id .responseProcessing s.kind))

end SignInJourney.Journey.Answer
