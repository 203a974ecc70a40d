import SignInJourney.Audit.Basic
import SignInJourney.Check
import SignInJourney.Config
import SignInJourney.Query

/-!
What the handling of an event depends on and what it consists of. Every handler of an event takes
the environment and the session and goes through its steps in turn: it looks things up and checks
them, which can fail and then ends it, and it reports, commits a state and sends a query.
-/

namespace SignInJourney

open Time

/-- A configuration with its times as spans. -/
structure Policy where
  sessionLength : Span
  waitPeriod : Span
  assertionLifetime : Span
  storeTimeouts : Bool
  serviceName : String
  deriving DecidableEq, Repr

namespace Policy

/-- The policy of a configuration, if its times can be represented. -/
def ofConfig? (c : Config) : Option Policy := do
  let sessionLength ← Config.span? c.sessionLength
  let waitPeriod ← Config.span? c.waitPeriod
  let assertionLifetime ← Config.span? c.assertionLifetime
  some
    { sessionLength := sessionLength
      waitPeriod := waitPeriod
      assertionLifetime := assertionLifetime
      storeTimeouts := c.storeTimeouts
      serviceName := c.serviceName }

end Policy

/-- The circumstances of an operation; they stay the same while it runs. -/
structure Environment where
  directory : Directory
  policy : Policy
  now : Instant

namespace Environment

def queryTiming (env : Environment) : QueryTiming :=
  { now := env.now
    waitPeriod := env.policy.waitPeriod
    assertionLifetime := env.policy.assertionLifetime }

/-- The query about an identity, sent to its matching service. -/
def query (env : Environment) (stage : Stage) (envelope : Envelope) (identity : Identity) :
    Except Failure AttributeQuery := do
  let endpoint ← Failure.ofDirectory (env.directory.matchingService identity.matchingService)
  Failure.inRange (AttributeQuery.of? stage envelope identity endpoint env.queryTiming)

/-- The matching service that a new selection is bound to, where the transaction uses matching. -/
def matchingServiceFor (env : Environment) (transaction : String) :
    Except Failure (Option String) := do
  let t ← Failure.ofDirectory (env.directory.transaction transaction)
  if t.usingMatching then
    (Failure.ofDirectory (env.directory.matchingServiceOf transaction)).map some
  else .ok none

/-- The start of the journey for a transaction, with the providers for its first level. -/
def startState (env : Environment) (transaction : String) : Except Failure State := do
  let t ← Failure.ofDirectory (env.directory.transaction transaction)
  match t.levels.head? with
  | some level => .ok (.sessionStarted (env.directory.enabledProviders transaction false level))
  | none => .ok (.sessionStarted [])

end Environment

/-- One thing that a handler does. -/
inductive Act where
  | report (r : Report)
  | commit (s : Session)
  | send (id : SessionId) (query : AttributeQuery)
  deriving DecidableEq

/-- What a handler does, in its order, and what it comes to: an answer, or the failure of the step
that it stops at. What it has done by then stays done. -/
structure Conduct (α : Type) where
  acts : List Act
  result : Except Failure α

namespace Conduct

variable {α β : Type}

/-- The same with another answer. -/
def map (f : α → β) (c : Conduct α) : Conduct β :=
  { acts := c.acts, result := c.result.map f }

/-- Goes on with the answer, if there is one. -/
def bind (c : Conduct α) (f : α → Conduct β) : Conduct β :=
  match c.result with
  | .ok a => { acts := c.acts ++ (f a).acts, result := (f a).result }
  | .error e => { acts := c.acts, result := .error e }

instance : Monad Conduct where
  pure a := { acts := [], result := .ok a }
  bind := bind
  map := map

/-- A step that looks something up or checks it does nothing, but can fail. -/
instance : MonadLift (Except Failure) Conduct where
  monadLift step := { acts := [], result := step }

def fail (f : Failure) : Conduct α :=
  { acts := [], result := .error f }

def act (a : Act) : Conduct Unit :=
  { acts := [a], result := .ok () }

def report (r : Report) : Conduct Unit :=
  act (.report r)

/-- Reports in turn. -/
def reportAll (reports : List Report) : Conduct Unit :=
  { acts := reports.map .report, result := .ok () }

def commit (s : Session) : Conduct Unit :=
  act (.commit s)

/-- Commits the next state of a session. -/
def moveTo (envelope : Envelope) (next : State) : Conduct Unit :=
  commit { envelope := envelope, state := next }

/-- Sends the query that a session waits for the answer to. -/
def send (envelope : Envelope) (query : AttributeQuery) : Conduct Unit :=
  act (.send envelope.sessionId query)

end Conduct

end SignInJourney
