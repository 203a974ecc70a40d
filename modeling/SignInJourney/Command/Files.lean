import SignInJourney.Command.Path
import SignInJourney.Command.Run

/-!
A host in memory: directories with texts and session stores in them, at an instant that does not
pass. Commands run on it without a process, and an interrupt comes at once.
-/

namespace SignInJourney.Command

open Time

/-- Where a file is: the names on the way to it from the root. -/
abbrev Place := List String

inductive File where
  | directory
  | text (s : String)
  | store (records : Dictionary (List UInt8))
  /-- It reads as an empty text and keeps nothing. -/
  | nullDevice

/-- Files by their places. Of several at one place the first counts. -/
structure Files where
  entries : List (Place × File)

namespace Files

/-- Where paths start that do not start at the root. -/
def workingDirectory : Place := ["work"]

/-- An empty working directory. -/
def bare : Files :=
  { entries :=
      [(workingDirectory, .directory), (["dev"], .directory), (["dev", "null"], .nullDevice)] }

/-- The file at a place; the root is a directory. -/
def find? (files : Files) (place : Place) : Option File :=
  if place.isEmpty then some .directory else files.entries.lookup place

def put (files : Files) (place : Place) (file : File) : Files :=
  { entries := (place, file) :: files.entries }

/-- The directory that steps lead to. A name that is not there is made a directory or ends the way;
another file ends it always. -/
def follow? (making : Bool) (files : Files) (place : Place) :
    List PathStep → Option (Files × Place)
  | [] => some (files, place)
  | .stay :: rest => follow? making files place rest
  | .up :: rest => follow? making files place.dropLast rest
  | .enter name :: rest =>
    let inner := place ++ [name]
    match files.find? inner with
    | some .directory => follow? making files inner rest
    | some _ => none
    | none => if making then follow? making (files.put inner .directory) inner rest else none

/-- The place that a path names in a directory, and the files with the directories made on the way
to it. -/
def locate? (making : Bool) (files : Files) (text : String) : Option (Files × Place) := do
  let path ← Path.ofText? text
  let start := if path.absolute then [] else workingDirectory
  let (files, directory) ← files.follow? making start path.way
  match path.last with
  | .enter name => some (files, directory ++ [name])
  | _ => none

/-- The files with one more at a path, which may replace another. -/
def write (files : Files) (path : String) (file : File) : Files :=
  match files.locate? true path with
  | some (files, place) => files.put place file
  | none => files

/-- A working directory with a store, unless there are no records, and texts by their paths. -/
def ofContents (store : String) (records : Dictionary (List UInt8))
    (texts : List (String × String)) : Files :=
  let files := if records.size = 0 then bare else bare.write store (.store records)
  texts.foldl (fun files (path, s) => files.write path (.text s)) files

def readText? (files : Files) (path : String) : Option String := do
  let (files, place) ← files.locate? false path
  match files.find? place with
  | some (.text s) => some s
  | some .nullDevice => some ""
  | _ => none

/-- The records in the store at a path. A store is made where there is no file or an empty text. -/
def openRecords? (files : Files) (path : String) : Option (Files × Dictionary (List UInt8)) := do
  let (files, place) ← files.locate? true path
  match files.find? place with
  | none | some (.text "") => some (files.put place (.store .empty), .empty)
  | some (.store records) => some (files, records)
  | _ => none

def host (now : Instant) : Host (StateM Files) where
  readText path := do pure ((← get).readText? path)
  openRecords path := do
    match (← get).openRecords? path with
    | some (files, records) => do
      set files
      pure (some records)
    | none => pure none
  saveRecords path records := modify fun files => files.write path (.store records)
  now := pure now
  sweepUntilInterrupted _ _ _ := pure ()

/-- The outcome of a command line at an instant. -/
def execute (files : Files) (now : Instant) (env : List (String × String)) (args : List String) :
    Outcome :=
  ((Command.execute (host now) env args).run files).1

end Files

end SignInJourney.Command
