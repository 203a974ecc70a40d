import SignInJourney.Data.Tree
import SignInJourney.Text.Digits

/-!
Numbers in JSON texts. A number is an integer if it is written as one and fits 64 bits. Any other is
a significand of 64 bits times a power of ten, of which it only matters whether it is finite:
significand, power and product are each rounded to the 53 binary digits of a double, and the last
must stay below `2 ^ 1024`.
-/

namespace SignInJourney.Json

/-- A number as written: its sign, the digits on both sides of the point and the exponent. -/
structure Literal where
  negative : Bool
  whole : List Char
  fraction : Option (List Char)
  exponent : Option (Bool × List Char)
  deriving Repr

/-- Puts digits behind a significand as long as it fits 64 bits: the significand, and the digits
from the first that does not fit on. -/
def absorb (n : Nat) : List Char → Nat × List Char
  | [] => (n, [])
  | c :: rest =>
    let m := 10 * n + (c.toNat - 48)
    if m < UInt64.size then absorb m rest else (n, c :: rest)

/-- A significand times a power of ten. -/
structure Scaled where
  significand : Nat
  power : Int
  deriving DecidableEq, Repr

/-- The significand and power of a literal. Digits in front of the point that do not fit count as
zeros, those behind it are dropped. -/
def Literal.scaled (l : Literal) : Scaled :=
  let fraction := l.fraction.getD []
  let (n, zeros) := absorb 0 l.whole
  let (n, dropped) := absorb n fraction
  let exponent : Int :=
    match l.exponent with
    | none => 0
    | some (negative, ds) => if negative then -(Text.ofDigits ds : Int) else Text.ofDigits ds
  { significand := n
    power := exponent + zeros.length - (fraction.length - dropped.length : Nat) }

/-- The nearest number of at most 53 binary digits before its zeros, the even one of two. -/
def roundToDouble (n : Nat) : Nat :=
  let unit := Nat.pow 2 (n.log2 - 52)
  let below := n / unit
  let rest := n % unit
  if 2 * rest < unit ∨ (2 * rest = unit ∧ below % 2 = 0) then below * unit else (below + 1) * unit

/-- The highest power of ten below the bound of the doubles. -/
def maxPower : Nat := 308

/-- Whether the number is finite as a double. -/
def Scaled.isFinite (x : Scaled) : Bool :=
  if x.significand = 0 ∨ x.power < 0 then true
  else if (maxPower : Int) < x.power then false
  else
    roundToDouble (roundToDouble x.significand * roundToDouble (Nat.pow 10 x.power.toNat)) <
      Nat.pow 2 1024

/-- The integer that a literal without point and exponent stands for, if it fits 64 bits. Minus zero
is none. -/
def Literal.integer? (l : Literal) : Option Tree :=
  match l.fraction, l.exponent, absorb 0 l.whole with
  | none, none, (n, []) =>
    if l.negative then
      if 0 < n ∧ n ≤ UInt64.size / 2 then some (.sint (-(n : Int))) else none
    else some (.uint n 64)
  | _, _, _ => none

/-- The value of a literal. -/
def Literal.tree (l : Literal) : Tree :=
  match l.integer? with
  | some t => t
  | none => if l.scaled.isFinite then .real true else .flawed

/-- At least one digit, and what follows the digits. -/
def someDigits? (cs : List Char) : Option (List Char × List Char) :=
  let ds := cs.takeWhile Char.isDigit
  if ds.isEmpty then none else some (ds, cs.dropWhile Char.isDigit)

def exponent? : List Char → Option (Option (Bool × List Char) × List Char)
  | 'e' :: cs | 'E' :: cs =>
    match cs with
    | '+' :: cs => (someDigits? cs).map fun (ds, rest) => (some (false, ds), rest)
    | '-' :: cs => (someDigits? cs).map fun (ds, rest) => (some (true, ds), rest)
    | cs => (someDigits? cs).map fun (ds, rest) => (some (false, ds), rest)
  | cs => some (none, cs)

/-- A number behind its sign: no zero in front of other digits. -/
def number? (negative : Bool) (cs : List Char) : Option (Tree × List Char) := do
  let (whole, cs) ← someDigits? cs
  if whole.length > 1 ∧ whole.head? = some '0' then none
  else do
    let (fraction, cs) ← match cs with
      | '.' :: cs => (someDigits? cs).map fun (ds, rest) => (some ds, rest)
      | cs => some (none, cs)
    let (exponent, cs) ← exponent? cs
    let l : Literal :=
      { negative := negative, whole := whole, fraction := fraction, exponent := exponent }
    some (l.tree, cs)

end SignInJourney.Json
