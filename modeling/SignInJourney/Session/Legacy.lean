import SignInJourney.Data.Tree

/-!
Session trees of the first record layout, brought to the current one. The first layout spells three
states differently and leaves out two members that the current one asks for.
-/

namespace SignInJourney.Legacy

open SignInJourney.Tree

/-- Why a session of the first layout cannot be brought to the current one. -/
inductive Flaw where
  | noState
  /-- A selected provider without a level to take as the requested one. -/
  | noLevels
  deriving DecidableEq, Repr

/-- States by their names in the first layout and their current names. -/
def renamed : List (String × String) :=
  [("CountrySelected", "EidasCountrySelected"),
    ("CountryAuthnFailedError", "EidasAuthnFailedError"),
    ("CountryUserAccountCreationFailed", "EidasUserAccountCreationFailed")]

def currentName (name : String) : String :=
  (renamed.lookup name).getD name

/-- Moves contents from a former name to the current one. -/
def rename (entries : List (Tree × Tree)) (names : String × String) : List (Tree × Tree) :=
  match findName? names.1 entries with
  | some contents => setName names.2 contents (dropName names.1 entries)
  | none => entries

/-- The members of a selected provider with a requested level: the first level where none is given.
-/
def settleRequested? (members : List (Tree × Tree)) : Option (List (Tree × Tree)) :=
  match findName? "requested_loa" members, findName? "levels_of_assurance" members with
  | some _, _ => some members
  | none, some (.list (first :: _)) => some (setName "requested_loa" first members)
  | none, _ => none

/-- The members of an identity with its registering flag, which is false where none is given. -/
def settleRegistering (members : List (Tree × Tree)) : List (Tree × Tree) :=
  match findName? "registering" members with
  | some _ => members
  | none => setName "registering" (.bool false) members

/-- Settles the flag of the identity in the contents under a name. -/
def settleIdentity (name : String) (entries : List (Tree × Tree)) : List (Tree × Tree) :=
  match findName? name entries with
  | some (.dict contents) =>
    match findName? "identity" contents with
    | some (.dict members) =>
      let contents := setName "identity" (.dict (settleRegistering members)) contents
      setName name (.dict contents) entries
    | _ => entries
  | _ => entries

/-- A state with contents in the current layout. -/
def currentEntries? (entries : List (Tree × Tree)) : Option (List (Tree × Tree)) :=
  let entries := renamed.foldl rename entries
  let entries := settleIdentity "AwaitingCycle3Data" entries
  let entries := settleIdentity "EidasAwaitingCycle3Data" entries
  match findName? "IdpSelected" entries with
  | some (.dict members) =>
    (settleRequested? members).map fun members => setName "IdpSelected" (.dict members) entries
  | _ => some entries

/-- A session of the first layout in the current one. -/
def upgrade (session : Tree) : Except Flaw Tree :=
  match session with
  | .dict members =>
    match findName? "state" members with
    | some (.text name) => .ok (.dict (setName "state" (.text (currentName name)) members))
    | some (.dict entries) =>
      match currentEntries? entries with
      | some entries => .ok (.dict (setName "state" (.dict entries) members))
      | none => .error .noLevels
    | _ => .error .noState
  | _ => .error .noState

end SignInJourney.Legacy
