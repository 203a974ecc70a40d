import SignInJourney.Command.Help
import SignInJourney.Directory.File
import SignInJourney.Dispatch
import SignInJourney.Journey.Basic
import SignInJourney.Json.Printer
import SignInJourney.Store.Basic

/-!
What the commands do, given a host that reads files, keeps records and waits. The outcome is an exit
code, the lines printed, and the message of what went wrong.
-/

namespace SignInJourney.Command

open Time

/-- What goes wrong with a command. -/
inductive CommandError where
  | configUnreadable (path : String)
  | configMalformed (path : String)
  | configInvalid (error : ConfigError)
  | storeUnopened (path : String)
  | directory (error : DirectoryFileError)
  | invalidSession (text : String)
  | sessionMissing (id : SessionId)
  | sessionUnreadable (id : SessionId)
  deriving DecidableEq, Repr

namespace CommandError

def message : CommandError → String
  | .configUnreadable path => "Failed to read config file " ++ path
  | .configMalformed path => "Failed to parse config file " ++ path
  | .configInvalid error => "Invalid configuration: " ++ error.message
  | .storeUnopened path => "Failed to open session store " ++ path
  | .directory error => error.message
  | .invalidSession text => "Invalid session id " ++ text
  | .sessionMissing id => s!"Session {id.hex} not found"
  | .sessionUnreadable id => s!"Failed to load session {id.hex}"

end CommandError

/-- Why a command ends early. -/
inductive Halt where
  | failed (error : CommandError)
  /-- A time or a capacity cannot be represented. -/
  | outOfRange
  deriving DecidableEq, Repr

/-- What the commands need of the process that they run in. -/
structure Host (m : Type → Type) where
  /-- The text in a file, if it can be read. -/
  readText : String → m (Option String)
  /-- The records in a store, which is made if there is none; none if it cannot be opened. -/
  openRecords : String → m (Option (Dictionary (List UInt8)))
  saveRecords : String → Dictionary (List UInt8) → m Unit
  now : m Instant
  /-- Sweeps a store at every interval until the process is interrupted. -/
  sweepUntilInterrupted : Config → Span → Store → m Unit

/-- How a command ended. -/
structure Outcome where
  exit : Nat
  output : List String
  error : Option String
  deriving DecidableEq, Repr

namespace Outcome

/-- A command line that cannot be understood. -/
def misused : Outcome :=
  { exit := 2, output := [], error := none }

def ofResult : Except Halt (List String) → Outcome
  | .ok lines => { exit := 0, output := lines, error := none }
  | .error (.failed e) => { exit := 1, output := [], error := some e.message }
  | .error .outOfRange => { exit := 101, output := [], error := none }

end Outcome

variable {m : Type → Type} [Monad m]

/-- A value that has to be representable. -/
def inRange {α : Type} : Option α → ExceptT Halt m α
  | some a => pure a
  | none => throw .outOfRange

/-- The overrides in the configuration file, if one is given. -/
def overrides (host : Host m) (o : Options) : ExceptT Halt m (Option ConfigOverrides) := do
  match o.path? .config with
  | none => pure none
  | some path =>
    match ← host.readText path with
    | none => throw (.failed (.configUnreadable path))
    | some text =>
      match (Json.read? text).bind (ofTree? .json) with
      | some overrides => pure (some overrides)
      | none => throw (.failed (.configMalformed path))

/-- The configuration: the defaults, the file's overrides, the store path given, and a check. -/
def loadConfig (host : Host m) (o : Options) : ExceptT Halt m Config := do
  let config :=
    match ← overrides host o with
    | some overrides => overrides.applyTo .default
    | none => .default
  let config :=
    match o.path? .store with
    | some path => { config with storePath := path }
    | none => config
  match config.problem? with
  | some e => throw (.failed (.configInvalid e))
  | none => pure config

def openStore (host : Host m) (config : Config) : ExceptT Halt m Store := do
  match ← host.openRecords config.storePath with
  | some records => pure (.ofRecords records (← host.now))
  | none => throw (.failed (.storeUnopened config.storePath))

def loadDirectory (host : Host m) (o : Options) : ExceptT Halt m Directory := do
  match o.path? .directory with
  | none => pure .empty
  | some path =>
    match Directory.ofFile path (← host.readText path) with
    | .ok d => pure d
    | .error e => throw (.failed (.directory e))

/-- Prints a session, indented. -/
def inspect (host : Host m) (config : Config) (text : String) :
    ExceptT Halt m (List String) := do
  let id ←
    match SessionId.ofHex? text with
    | some id => pure id
    | none => throw (.failed (.invalidSession text))
  let store ← openStore host config
  match store.get id with
  | .ok (some s) => pure ((Json.indent 0 (toTree s)).splitOn "\n")
  | .ok none => throw (.failed (.sessionMissing id))
  | .error _ => throw (.failed (.sessionUnreadable id))

/-- Removes stale sessions and prints how many there were. -/
def sweep (host : Host m) (config : Config) : ExceptT Halt m (List String) := do
  let store ← openStore host config
  let retention ← inRange (Config.span? config.retention)
  let (removed, store) := store.sweep (← host.now) retention
  let removed ← inRange removed
  host.saveRecords config.storePath store.records
  pure [toString removed]

/-- Runs the service: everything that it is wired to is there, and the sweep goes on. -/
def run (host : Host m) (o : Options) (config : Config) : ExceptT Halt m (List String) := do
  let store ← openStore host config
  let _ ← loadDirectory host o
  let _ : Queue Unit ← inRange (Queue.ofCapacity? config.channelCapacity)
  let _ ← inRange (Policy.ofConfig? config)
  let retention ← inRange (Config.span? config.retention)
  host.sweepUntilInterrupted config retention store
  pure []

def perform (host : Host m) (o : Options) (task : Task) : ExceptT Halt m (List String) := do
  let config ← loadConfig host o
  match task with
  | .run => run host o config
  | .inspect session => inspect host config session
  | .sweep => sweep host config

/-- Runs a command line in a process environment. -/
def execute (host : Host m) (env : List (String × String)) (args : List String) : m Outcome := do
  match parse env args with
  | .ok (o, task) => pure (.ofResult (← (perform host o task).run))
  | .error (.help topic) => pure (.ofResult (.ok (Help.lines env topic)))
  | .error .misused => pure .misused

end SignInJourney.Command
