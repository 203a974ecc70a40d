/-!
The command line: options, then one command. An option that is not given is taken from the process
environment. Help may be asked for at any point, and is given before anything behind that point is
looked at.
-/

namespace SignInJourney.Command

/-- The commands. -/
inductive Verb where
  | run
  | inspect
  | sweep
  deriving DecidableEq, Repr

namespace Verb

def all : List Verb := [.run, .inspect, .sweep]

def word : Verb → String
  | .run => "run"
  | .inspect => "inspect"
  | .sweep => "sweep"

def ofWord? (s : String) : Option Verb :=
  all.find? fun v => v.word == s

/-- How many operands a command takes. -/
def arity : Verb → Nat
  | .inspect => 1
  | .run | .sweep => 0

end Verb

/-- What is to be done. -/
inductive Task where
  /-- Run the service until it is interrupted. -/
  | run
  /-- Print a stored session. -/
  | inspect (session : String)
  /-- Remove stale sessions once. -/
  | sweep
  deriving DecidableEq, Repr

/-- What help is asked for. -/
inductive Topic where
  | program
  | verb (v : Verb)
  | help
  deriving DecidableEq, Repr

/-- Why a command line does not come to a task. -/
inductive Detour where
  | misused
  | help (topic : Topic)
  deriving DecidableEq, Repr

/-- Options that take a path. -/
inductive PathOption where
  | config
  | directory
  | store
  deriving DecidableEq, Repr

namespace PathOption

def all : List PathOption := [.config, .directory, .store]

/-- How the option is given on the command line. -/
def flag : PathOption → String
  | .config => "--config"
  | .directory => "--directory"
  | .store => "--store"

/-- The variable that holds it otherwise. -/
def variableName : PathOption → String
  | .config => "POLICY_CONFIG"
  | .directory => "POLICY_DIRECTORY"
  | .store => "POLICY_SESSION_STORE"

end PathOption

/-- The flag that asks for a verbose log. -/
def verboseFlag : String := "--verbose"

/-- The variable that asks for a verbose log. -/
def verboseVariable : String := "POLICY_VERBOSE"

/-- The flag that asks for help. -/
def helpFlag : String := "--help"

/-- The command that asks for help. -/
def helpWord : String := "help"

structure Options where
  paths : List (PathOption × String)
  verbose : Bool
  deriving DecidableEq, Repr

namespace Options

def none : Options :=
  { paths := [], verbose := false }

def path? (o : Options) (p : PathOption) : Option String :=
  o.paths.lookup p

/-- Sets a path, which must not be empty nor set before. -/
def setPath (o : Options) (p : PathOption) (value : String) : Except Detour Options :=
  if value.isEmpty ∨ (o.path? p).isSome then .error .misused
  else .ok { o with paths := (p, value) :: o.paths }

/-- Asks for a verbose log, which may be asked for once. -/
def setVerbose (o : Options) : Except Detour Options :=
  if o.verbose then .error .misused else .ok { o with verbose := true }

/-- Flags of one letter, as in `-v`. -/
def setLetters (o : Options) : List Char → Except Detour Options
  | [] => .ok o
  | c :: rest =>
    if c = 'v' then do setLetters (← o.setVerbose) rest
    else if c = 'h' then .error (.help .program)
    else .error .misused

end Options

/-- The options in front of the command as far as they have been read. A path that stands apart from
its flag is only looked at when the next option is read, or the command has been. -/
structure Reading where
  options : Options
  waiting : Option (PathOption × String)

namespace Reading

def start : Reading :=
  { options := .none, waiting := none }

def ofOptions (o : Options) : Reading :=
  { options := o, waiting := none }

/-- The options with the path that waits. -/
def settle (r : Reading) : Except Detour Options :=
  match r.waiting with
  | some (p, value) => r.options.setPath p value
  | none => .ok r.options

end Reading

/-- What an argument in front of the command is. -/
inductive Word where
  | letters (cs : List Char)
  | verbose
  | help
  | path (option : PathOption) (attached : Option String)
  | command
  | unknown
  deriving DecidableEq, Repr

/-- The path option that an argument gives a value for, as in `--store=path`. -/
def attached? (arg : String) : Option (PathOption × String) :=
  PathOption.all.findSome? fun p =>
    let head := (p.flag ++ "=").toList
    let cs := arg.toList
    if cs.take head.length = head then some (p, String.ofList (cs.drop head.length)) else none

/-- Looks like an option; a single hyphen does not. -/
def isHyphenated (arg : String) : Bool :=
  arg.toList.head? == some '-' && arg != "-"

def word (arg : String) : Word :=
  if arg = verboseFlag then .verbose
  else if arg = helpFlag then .help
  else
    match PathOption.all.find? fun p => p.flag == arg, attached? arg with
    | some p, _ => .path p none
    | none, some (p, value) => .path p (some value)
    | none, none =>
      match arg.toList with
      | '-' :: '-' :: _ => .unknown
      | '-' :: c :: rest => .letters (c :: rest)
      | _ => .command

/-- The options in front of the command, its name, and what follows it. -/
def options (r : Reading) : List String → Except Detour (Reading × String × List String)
  | [] => .error .misused
  | arg :: rest =>
    match word arg with
    | .letters cs => do options (.ofOptions (← (← r.settle).setLetters cs)) rest
    | .verbose => do options (.ofOptions (← (← r.settle).setVerbose)) rest
    | .help => do
      let _ ← r.settle
      .error (.help .program)
    | .path p (some value) => do options (.ofOptions (← (← r.settle).setPath p value)) rest
    | .path p none =>
      match rest with
      | value :: rest =>
        if isHyphenated value then .error .misused
        else do options { options := ← r.settle, waiting := some (p, value) } rest
      | [] => .error .misused
    | .command => .ok (r, arg, rest)
    | .unknown => .error .misused

/-- Asks for help on a command; letters behind the one for help do not count. -/
def asksHelp (arg : String) : Bool :=
  arg == helpFlag || arg.toList.take 2 == ['-', 'h']

/-- The operands of a command; behind a double hyphen they may look like options. -/
def operands (v : Verb) (taken : List String) : List String → Except Detour (List String)
  | [] => .ok taken
  | arg :: rest =>
    if arg = "--" then .ok (taken ++ rest)
    else if asksHelp arg then .error (.help (.verb v))
    else if isHyphenated arg ∨ v.arity ≤ taken.length then .error .misused
    else operands v (taken ++ [arg]) rest

def task (v : Verb) (args : List String) : Except Detour Task := do
  match v, ← operands v [] args with
  | .run, [] => .ok .run
  | .inspect, [session] => .ok (.inspect session)
  | .sweep, [] => .ok .sweep
  | _, _ => .error .misused

/-- The topic that the help command is given. -/
def topic : List String → Except Detour Topic
  | [] => .ok .program
  | [name] =>
    if name = helpWord then .ok .help
    else
      match Verb.ofWord? name with
      | some v => .ok (.verb v)
      | none => .error .misused
  | _ => .error .misused

/-- The task of a command. -/
def command (name : String) (args : List String) : Except Detour Task :=
  if name = helpWord then do .error (.help (← topic args))
  else
    match Verb.ofWord? name with
    | some v => task v args
    | none => .error .misused

/-- A path from the environment, where the command line has none. -/
def inheritPath (env : List (String × String)) (o : Options) (p : PathOption) :
    Except Detour Options :=
  match o.path? p, env.lookup p.variableName with
  | none, some value => o.setPath p value
  | _, _ => .ok o

/-- Whether a verbose log is asked for in the environment, where the command line does not. -/
def inheritVerbose (env : List (String × String)) (o : Options) : Except Detour Options :=
  if o.verbose then .ok o
  else
    match env.lookup verboseVariable with
    | none | some "false" => .ok o
    | some "true" => .ok { o with verbose := true }
    | some _ => .error .misused

def inherit (env : List (String × String)) (o : Options) : Except Detour Options := do
  inheritVerbose env (← PathOption.all.foldlM (inheritPath env) o)

/-- The options and the task that a command line asks for, in a process environment. -/
def parse (env : List (String × String)) (args : List String) :
    Except Detour (Options × Task) := do
  let (r, name, rest) ← options .start args
  let task ← command name rest
  let o ← r.settle
  .ok (← inherit env o, task)

end SignInJourney.Command
