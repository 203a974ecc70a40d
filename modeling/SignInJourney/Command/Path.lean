/-!
Paths of files as steps from one directory to the next. What a path means is only known on its way:
a step up leaves the directory that was entered, and a step into one that is not there fails.
-/

namespace SignInJourney.Command

/-- One step of a path. -/
inductive PathStep where
  | stay
  | up
  | enter (name : String)
  deriving DecidableEq, Repr

def PathStep.ofText (s : String) : PathStep :=
  if s = "" ∨ s = "." then .stay
  else if s = ".." then .up
  else .enter s

/-- The steps to a directory, and the one that leads from there to a file. -/
structure Path where
  /-- Whether it starts at the root, and not in the working directory. -/
  absolute : Bool
  way : List PathStep
  last : PathStep
  deriving DecidableEq, Repr

namespace Path

/-- How many bytes a path may have. -/
def maxLength : Nat := 4095

/-- How many bytes a name in a path may have. -/
def maxNameLength : Nat := 255

/-- Whether files can have a path of such a text. -/
def isPossible (text : String) : Bool :=
  text.utf8ByteSize ≤ maxLength && !text.toList.contains '\x00' &&
    (text.splitOn "/").all fun name => name.utf8ByteSize ≤ maxNameLength

/-- The path that a text stands for. -/
def ofText? (text : String) : Option Path :=
  let steps := (text.splitOn "/").map PathStep.ofText
  if isPossible text then
    some
      { absolute := text.toList.head? == some '/'
        way := steps.dropLast
        last := steps.getLastD .stay }
  else none

end Path

end SignInJourney.Command
