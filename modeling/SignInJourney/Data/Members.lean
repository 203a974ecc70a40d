import SignInJourney.Data.Document

/-!
Records in trees. A record is a map of members under their names, or the list of its members in
order. A name that the record does not have is passed over, unless the record is closed; a name
given twice is an error. A list may stop early where what is left out has a default. Binary data
that stands for the list of its bytes may also go on past the last member.
-/

namespace SignInJourney

/-- Whether a record refuses names that it does not have. -/
inductive Openness where
  | lenient
  | closed
  deriving DecidableEq, Repr

/-- The members given for a record. -/
structure Members where
  encoding : Encoding
  /-- Given as a list, in order, and not under their names. -/
  positional : Bool
  given : List (String × Tree)

namespace Members

/-- The name that an entry goes by among `names`: `some none` for a name that is none of them. -/
def name? (e : Encoding) (names : List String) : Tree → Option (Option String)
  | .text s => some (if s ∈ names then some s else none)
  | .bytes bs => some ((Tree.utf8? bs).filter (· ∈ names))
  | .garbled => some none
  | .uint n _ => if e.byPosition then some names[n]? else none
  | _ => none

/-- The entries of a map under the names that they go by. -/
def collect? (e : Encoding) (names : List String) (o : Openness) :
    List (Tree × Tree) → Option (List (String × Tree))
  | [] => some []
  | (k, v) :: rest =>
    match name? e names k, collect? e names o rest with
    | some (some name), some given =>
      if (given.lookup name).isSome then none else some ((name, v) :: given)
    | some none, some given => if o = .closed then none else some given
    | _, _ => none

/-- The members that a tree gives for a record with these names. -/
def ofTree? (e : Encoding) (names : List String) (o : Openness) : Tree → Option Members
  | .list items =>
    if items.length ≤ names.length then
      some { encoding := e, positional := true, given := names.zip items }
    else none
  | .dict entries =>
    (collect? e names o entries).map fun given =>
      { encoding := e, positional := false, given := given }
  | .bytes bs =>
    if e.bytesAsList then
      some { encoding := .json, positional := true, given := names.zip (Tree.octets bs) }
    else none
  | _ => none

variable {α : Type} [OfTree α]

/-- A member that must be given. -/
def required (m : Members) (name : String) : Option α :=
  (m.given.lookup name).bind (SignInJourney.ofTree? m.encoding)

/-- A member with a value for when it is left out. -/
def withDefault (m : Members) (name : String) (value : α) : Option α :=
  match m.given.lookup name with
  | some t => SignInJourney.ofTree? m.encoding t
  | none => some value

/-- A member that a map may leave out and a list may not. -/
def named (m : Members) (name : String) : Option (Option α) :=
  match m.given.lookup name with
  | some t => SignInJourney.ofTree? m.encoding t
  | none => if m.positional then none else some none

end Members

end SignInJourney
