import SignInJourney.Data.Document

/-!
Levels of assurance: how strongly a user was authenticated. `LEVEL_X` is no strength at all;
identity providers assert it to report fraud.
-/

namespace SignInJourney

inductive Level where
  | x
  | one
  | two
  | three
  | four
  deriving DecidableEq, Repr

namespace Level

def name : Level → String
  | .x => "LEVEL_X"
  | .one => "LEVEL_1"
  | .two => "LEVEL_2"
  | .three => "LEVEL_3"
  | .four => "LEVEL_4"

instance : Vocabulary Level where
  all := [.x, .one, .two, .three, .four]
  word := name
  find_word a := by cases a <;> rfl

def isFraudMarker (l : Level) : Bool :=
  l == .x

/-- Strength, with the fraud marker below every level. -/
def rank : Level → Nat
  | .x => 0
  | .one => 1
  | .two => 2
  | .three => 3
  | .four => 4

instance : LE Level := ⟨fun a b => a.rank ≤ b.rank⟩

instance (a b : Level) : Decidable (a ≤ b) :=
  inferInstanceAs (Decidable (a.rank ≤ b.rank))

/-- Levels as messages quote them: `[LEVEL_2, LEVEL_1]`. -/
def quoteAll (levels : List Level) : String :=
  "[" ++ String.intercalate ", " (levels.map name) ++ "]"

/-- Weakest first. -/
def sort (levels : List Level) : List Level :=
  levels.mergeSort fun a b => decide (a ≤ b)

/-- The strongest of some levels. -/
def strongest? : List Level → Option Level
  | [] => none
  | l :: rest =>
    match strongest? rest with
    | some m => some (if m ≤ l then l else m)
    | none => some l

end Level

/-- Levels with the requested one moved to the front; the others keep their order. -/
def requestedFirst (levels : List Level) (requested : Level) : List Level :=
  (if requested ∈ levels then [requested] else []) ++ levels.filter (· ≠ requested)

end SignInJourney
