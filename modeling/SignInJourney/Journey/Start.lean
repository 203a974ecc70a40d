import SignInJourney.Journey.Basic
import SignInJourney.Message.Outbound

/-! The start of a journey: opening a session for a transaction, and going back to the start. -/

namespace SignInJourney.Journey.Start

open Conduct (commit moveTo report)

/-- A new session and the report of it. -/
structure Opening where
  session : Session
  report : Report

/-- Opens a session, under the id drawn for it, that lasts for the configured time. -/
def openSession (env : Environment) (id : SessionId) (request : AuthnRequest) :
    Except Failure Opening := do
  let t ← Failure.ofDirectory (env.directory.transaction request.issuer)
  match t.levels.head?, t.levels.getLast? with
  | some minimum, some required => do
    let expiry ← Failure.inRange (env.now.add? env.policy.sessionLength)
    let envelope : Envelope :=
      { requestId := request.requestId
        issuer := request.issuer
        expiry := expiry
        consumerUri := request.consumerUri
        sessionId := id
        supportsEidas := t.eidasEnabled
        relayState := request.relayState
        forceAuthentication := request.forceAuthentication }
    let providers := env.directory.enabledProviders request.issuer false minimum
    .ok
      { session := { envelope := envelope, state := .sessionStarted providers }
        report := .occurrence envelope (.started request.ip minimum required) }
  | _, _ => .error (.refused (.invalid (.noRegisteredLevels request.issuer)))

/-- Opens a session and answers its id. -/
def create (env : Environment) (id : SessionId) (request : AuthnRequest) : Conduct SessionId := do
  let opening ← openSession env id request
  commit opening.session
  report opening.report
  return id

/-- Back to the start. Only leaving an eIDAS journey is reported. -/
def restart (env : Environment) (s : Session) : Conduct Unit := do
  let next ← env.startState s.envelope.issuer
  moveTo s.envelope next
  if s.state.isEidas then report (.occurrence s.envelope .movedToStart)

def signInDetails (s : Session) : SignInDetails :=
  { issuer := s.envelope.issuer, supportsEidas := s.envelope.supportsEidas }

end SignInJourney.Journey.Start
