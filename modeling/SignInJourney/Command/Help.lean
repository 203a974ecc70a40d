import SignInJourney.Command.Arguments

/-!
The help texts: what the program or a command is for, how it is called, and its commands, operands
and options with their meanings in a column of their own.
-/

namespace SignInJourney.Command

/-- The name that the program goes by. -/
def programName : String := "identity-hub-policy"

namespace Verb

/-- What a command is for. -/
def meaning : Verb → String
  | .run => "Run the service until interrupted"
  | .inspect => "Print a stored session as JSON"
  | .sweep => "Delete stale sessions once and exit"

/-- The operands of a command, with their meanings. -/
def operands : Verb → List (String × String)
  | .inspect => [("<SESSION_ID>", "Hex session id")]
  | .run | .sweep => []

end Verb

namespace PathOption

def meaning : PathOption → String
  | .config => "JSON file with policy settings"
  | .directory => "JSON directory of transactions, IDPs, matching services and countries"
  | .store => "Session store path, overriding the config file"

/-- The name that its value goes by. -/
def valueName : PathOption → String
  | .config => "<CONFIG>"
  | .directory => "<DIRECTORY>"
  | .store => "<STORE>"

end PathOption

namespace Help

/-- What the help command is for. -/
def meaning : String := "Print this message or the help of the given subcommand(s)"

/-- Names in one column and their meanings in the next. -/
def columns (rows : List (String × String)) : List String :=
  let width := (rows.map fun row => row.1.length).foldl max 0
  rows.map fun (name, meaning) =>
    "  " ++ name ++ String.ofList (List.replicate (width + 2 - name.length) ' ') ++ meaning

/-- A page: what it is about, how that is called, and its sections with a heading each. -/
def page (about : String) (usage : List String)
    (sections : List (String × List (String × String))) : List String :=
  let call := " ".intercalate ("Usage:" :: programName :: usage)
  about :: "" :: call :: sections.flatMap fun (heading, rows) =>
    if rows.isEmpty then [] else "" :: heading :: columns rows

/-- A meaning with the variable that stands in for the option, and what it holds. -/
def withVariable (env : List (String × String)) (name meaning : String) : String :=
  meaning ++ " [env: " ++ name ++ "=" ++ (env.lookup name).getD "" ++ "]"

/-- The option that asks for help. -/
def helpRow : String × String := ("-h, " ++ helpFlag, "Print help")

def commandRows : List (String × String) :=
  (Verb.all.map fun v => (v.word, v.meaning)) ++ [(helpWord, meaning)]

/-- The options of the program; one without a letter leaves room for it. -/
def optionRows (env : List (String × String)) : List (String × String) :=
  (PathOption.all.map fun p =>
    ("    " ++ p.flag ++ " " ++ p.valueName, withVariable env p.variableName p.meaning)) ++
  [("-v, " ++ verboseFlag, withVariable env verboseVariable "Enable verbose logging"), helpRow]

/-- The lines of the help on a topic, in a process environment. -/
def lines (env : List (String × String)) : Topic → List String
  | .program =>
    page "Session policy engine for the identity hub" ["[OPTIONS]", "<COMMAND>"]
      [("Commands:", commandRows), ("Options:", optionRows env)]
  | .verb v =>
    page v.meaning (v.word :: v.operands.map (·.1))
      [("Arguments:", v.operands), ("Options:", [helpRow])]
  | .help =>
    page meaning [helpWord, "[COMMAND]..."]
      [("Arguments:", [("[COMMAND]...", "Print help for the subcommand(s)")])]

end Help

end SignInJourney.Command
