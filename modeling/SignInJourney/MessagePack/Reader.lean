import SignInJourney.Data.Tree

/-!
MessagePack read as a tree. A value is a head, which holds it or counts what belongs to it, and the
values counted. Containers may be nested 1023 deep, which is also what makes reading end.
-/

namespace SignInJourney.MessagePack

/-- How many lists, maps and extensions may be open at once. -/
def maxLevels : Nat := 1023

/-- What the first bytes of a value say. -/
inductive Head where
  | leaf (t : Tree)
  | list (count : Nat)
  | dict (count : Nat)
  | extension (length : Nat)

/-- The first `n` bytes and the rest. -/
def take? : Nat → List UInt8 → Option (List UInt8 × List UInt8)
  | 0, bs => some ([], bs)
  | _ + 1, [] => none
  | n + 1, b :: bs => (take? n bs).map fun (taken, rest) => (b :: taken, rest)

/-- The number in the next `n` bytes, the highest byte first. -/
def nat? (n : Nat) (bs : List UInt8) : Option (Nat × List UInt8) :=
  (take? n bs).map fun (taken, rest) => (taken.foldl (fun m b => 256 * m + b.toNat) 0, rest)

/-- The signed number in the next `n` bytes, as a two's complement. -/
def int? (n : Nat) (bs : List UInt8) : Option (Int × List UInt8) :=
  (nat? n bs).map fun (m, rest) =>
    ((if m < Nat.pow 2 (8 * n - 1) then (m : Int) else (m : Int) - Nat.pow 2 (8 * n)), rest)

/-- The next `n` bytes as a text. -/
def text? (n : Nat) (bs : List UInt8) : Option (Head × List UInt8) :=
  (take? n bs).map fun (taken, rest) =>
    match Tree.utf8? taken with
    | some s => (.leaf (.text s), rest)
    | none => (.leaf .garbled, rest)

def binary? (n : Nat) (bs : List UInt8) : Option (Head × List UInt8) :=
  (take? n bs).map fun (taken, rest) => (.leaf (.bytes taken), rest)

/-- A length in the next `n` bytes, and what it is the length of. -/
def counted? (n : Nat) (bs : List UInt8) (body : Nat → List UInt8 → Option (Head × List UInt8)) :
    Option (Head × List UInt8) :=
  (nat? n bs).bind fun (count, rest) => body count rest

def uint? (n : Nat) (bs : List UInt8) : Option (Head × List UInt8) :=
  (nat? n bs).map fun (m, rest) => (.leaf (.uint m (8 * n)), rest)

def sint? (n : Nat) (bs : List UInt8) : Option (Head × List UInt8) :=
  (int? n bs).map fun (m, rest) => (.leaf (.sint m), rest)

/-- A floating-point number of `n` bytes: finite unless all `exponent` bits are set. -/
def real? (n exponent : Nat) (bs : List UInt8) : Option (Head × List UInt8) :=
  (nat? n bs).map fun (m, rest) =>
    let field := m / Nat.pow 2 (8 * n - 1 - exponent) % Nat.pow 2 exponent
    (.leaf (.real (field ≠ Nat.pow 2 exponent - 1)), rest)

def head? : List UInt8 → Option (Head × List UInt8)
  | [] => none
  | b :: bs =>
    let n := b.toNat
    if n < 0x80 then some (.leaf (.uint n 8), bs)
    else if n < 0x90 then some (.dict (n - 0x80), bs)
    else if n < 0xA0 then some (.list (n - 0x90), bs)
    else if n < 0xC0 then text? (n - 0xA0) bs
    else if 0xE0 ≤ n then some (.leaf (.sint ((n : Int) - 256)), bs)
    else if n = 0xC0 then some (.leaf .null, bs)
    else if n = 0xC2 then some (.leaf (.bool false), bs)
    else if n = 0xC3 then some (.leaf (.bool true), bs)
    else if n = 0xC4 then counted? 1 bs binary?
    else if n = 0xC5 then counted? 2 bs binary?
    else if n = 0xC6 then counted? 4 bs binary?
    else if n = 0xC7 then counted? 1 bs fun count rest => some (.extension count, rest)
    else if n = 0xC8 then counted? 2 bs fun count rest => some (.extension count, rest)
    else if n = 0xC9 then counted? 4 bs fun count rest => some (.extension count, rest)
    else if n = 0xCA then real? 4 8 bs
    else if n = 0xCB then real? 8 11 bs
    else if n = 0xCC then uint? 1 bs
    else if n = 0xCD then uint? 2 bs
    else if n = 0xCE then uint? 4 bs
    else if n = 0xCF then uint? 8 bs
    else if n = 0xD0 then sint? 1 bs
    else if n = 0xD1 then sint? 2 bs
    else if n = 0xD2 then sint? 4 bs
    else if n = 0xD3 then sint? 8 bs
    else if 0xD4 ≤ n ∧ n ≤ 0xD8 then some (.extension (Nat.pow 2 (n - 0xD4)), bs)
    else if n = 0xD9 then counted? 1 bs text?
    else if n = 0xDA then counted? 2 bs text?
    else if n = 0xDB then counted? 4 bs text?
    else if n = 0xDC then counted? 2 bs fun count rest => some (.list count, rest)
    else if n = 0xDD then counted? 4 bs fun count rest => some (.list count, rest)
    else if n = 0xDE then counted? 2 bs fun count rest => some (.dict count, rest)
    else if n = 0xDF then counted? 4 bs fun count rest => some (.dict count, rest)
    else none

/-- `n` things, one after the other. -/
def many? {α : Type} (one : List UInt8 → Option (α × List UInt8)) :
    Nat → List UInt8 → Option (List α × List UInt8)
  | 0, bs => some ([], bs)
  | n + 1, bs =>
    match one bs with
    | none => none
    | some (a, rest) => (many? one n rest).map fun (as, rest) => (a :: as, rest)

/-- Two things, one after the other. -/
def both? {α : Type} (one : List UInt8 → Option (α × List UInt8)) (bs : List UInt8) :
    Option ((α × α) × List UInt8) :=
  match one bs with
  | none => none
  | some (a, rest) => (one rest).map fun (b, rest) => ((a, b), rest)

/-- One value that opens at most `levels` containers inside each other, and the bytes after it. -/
def value? (levels : Nat) (bs : List UInt8) : Option (Tree × List UInt8) :=
  match head? bs with
  | none => none
  | some (.leaf t, rest) => some (t, rest)
  | some (.list count, rest) =>
    match levels with
    | 0 => none
    | inner + 1 => (many? (value? inner) count rest).map fun (ts, rest) => (.list ts, rest)
  | some (.dict count, rest) =>
    match levels with
    | 0 => none
    | inner + 1 => (many? (both? (value? inner)) count rest).map fun (es, rest) => (.dict es, rest)
  | some (.extension length, rest) =>
    match levels with
    | 0 => none
    | _ + 1 => (take? (length + 1) rest).map fun (_, rest) => (.extension, rest)

/-- The value that a byte string starts with. What follows it is of no concern. -/
def read? (bs : List UInt8) : Option Tree :=
  (value? maxLevels bs).map (·.1)

end SignInJourney.MessagePack
