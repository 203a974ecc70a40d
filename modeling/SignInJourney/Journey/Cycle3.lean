import SignInJourney.Journey.Basic
import SignInJourney.Message.Outbound

/-! Cycle 3: the user is asked for one more attribute, and the matching service is asked again. -/

namespace SignInJourney.Journey.Cycle3

open Conduct (moveTo report send)

/-- A user who is being asked. -/
structure Asked where
  envelope : Envelope
  family : Family
  identity : Identity
  deriving DecidableEq

/-- The user that a session asks, if it does. -/
def asked? (s : Session) : Option Asked :=
  match s.state with
  | .awaitingCycle3 family identity =>
    some { envelope := s.envelope, family := family, identity := identity }
  | _ => none

/-- The attribute that the transaction wants. -/
def attributeName (env : Environment) (a : Asked) : Except Failure String := do
  let transaction := a.envelope.issuer
  let t ← Failure.ofDirectory (env.directory.transaction transaction)
  match t.cycle3Attribute with
  | some name => .ok name
  | none => .error (.refused (.invalid (.noCycle3Attribute transaction)))

def question (env : Environment) (a : Asked) : Except Failure Cycle3Question := do
  let name ← attributeName env a
  .ok { attributeName := name, issuer := a.envelope.issuer }

/-- Asks the matching service again, about the same identity, with what the user typed in. -/
def submit (env : Environment) (a : Asked) (input : Cycle3Input) : Conduct Unit := do
  let name ← attributeName env a
  let dataset := some (Cycle3Dataset.single name input.value)
  let query ← env.query .cycle3 a.envelope a.identity
  let request : MatchRequest :=
    { identity := a.identity, sentAt := env.now, cycle3Dataset := dataset }
  report (.occurrence a.envelope (.cycle3Submitted input.ip))
  moveTo a.envelope (.matchRequested a.family .cycle3 request)
  send a.envelope (query.withCycle3Dataset dataset)

/-- The user does not want to say. -/
def cancel (a : Asked) : Conduct Unit := do
  report (.occurrence a.envelope .cycle3Cancelled)
  moveTo a.envelope .cycle3Cancelled

end SignInJourney.Journey.Cycle3
