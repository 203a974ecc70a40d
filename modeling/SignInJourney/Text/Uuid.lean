import SignInJourney.Data.Document
import SignInJourney.Text.Hex

/-!
Universally unique identifiers: sixteen bytes, written in lower case with hyphens, and read in
hyphenated, plain, braced or URN form in either case.
-/

namespace SignInJourney

structure Uuid where
  bytes : List UInt8
  length_eq : bytes.length = 16
  deriving Repr

namespace Uuid

instance : DecidableEq Uuid := fun a b =>
  if h : a.bytes = b.bytes then .isTrue (by cases a; cases b; simp_all)
  else .isFalse fun same => h (same ▸ rfl)

/-- How many digits stand between the hyphens. -/
def groups : List Nat := [8, 4, 4, 4, 12]

/-- Digits in groups with hyphens between. -/
def hyphenate : List Nat → List Char → List Char
  | [], ds => ds
  | [_], ds => ds
  | n :: rest, ds => ds.take n ++ '-' :: hyphenate rest (ds.drop n)

def text (u : Uuid) : String :=
  String.ofList (hyphenate groups (Hex.digits u.bytes))

/-- The digits of groups with hyphens between. -/
def ungroup? : List Nat → List Char → Option (List Char)
  | [], cs => if cs.isEmpty then some [] else none
  | [n], cs => if cs.length = n then some cs else none
  | n :: rest, cs =>
    match cs.drop n with
    | '-' :: behind => (ungroup? rest behind).map (cs.take n ++ ·)
    | _ => none

/-- The start of an identifier in URN form, in either case. -/
def isUrnStart (cs : List Char) : Bool :=
  cs.map Char.toLower == "urn:uuid:".toList

/-- The digits in a hyphenated text inside braces or behind the URN prefix, or in one without
either. -/
def unwrap? (cs : List Char) : Option (List Char) :=
  if cs.length = 32 then some cs
  else if cs.length = 38 ∧ cs.head? = some '\x7b' ∧ cs.getLast? = some '\x7d' then
    ungroup? groups ((cs.drop 1).take 36)
  else if cs.length = 45 ∧ isUrnStart (cs.take 9) then ungroup? groups (cs.drop 9)
  else ungroup? groups cs

/-- The identifier that a text names. -/
def ofText? (s : String) : Option Uuid := do
  let bytes ← (unwrap? s.toList).bind Hex.bytes?
  if h : bytes.length = 16 then some ⟨bytes, h⟩ else none

instance : ToTree Uuid := ⟨fun u => .text u.text⟩

instance : OfTree Uuid := ⟨fun _ t => t.text?.bind ofText?⟩

end Uuid

end SignInJourney
