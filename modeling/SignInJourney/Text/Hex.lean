/-!
Bytes written as hexadecimal digits: two digits a byte, high half first, lower case. Reading accepts
either case and nothing but whole bytes.
-/

namespace SignInJourney.Hex

/-- The digit that stands for a half byte. -/
def digit (n : Nat) : Char :=
  if n < 10 then Char.ofNat (48 + n) else Char.ofNat (87 + n)

/-- The value of a digit in either case. -/
def value? (c : Char) : Option Nat :=
  if '0' ≤ c ∧ c ≤ '9' then some (c.toNat - 48)
  else if 'a' ≤ c ∧ c ≤ 'f' then some (c.toNat - 87)
  else if 'A' ≤ c ∧ c ≤ 'F' then some (c.toNat - 55)
  else none

/-- The two digits of one byte. -/
def pair (b : UInt8) : List Char :=
  [digit (b.toNat / 16), digit (b.toNat % 16)]

/-- The digits of a byte string, in order. -/
def digits (bytes : List UInt8) : List Char :=
  bytes.flatMap pair

/-- The bytes that a run of digits stands for: none if a digit is left over or is no digit. -/
def bytes? : List Char → Option (List UInt8)
  | [] => some []
  | [_] => none
  | high :: low :: rest =>
    match value? high, value? low, bytes? rest with
    | some h, some l, some bs => some (UInt8.ofNat (16 * h + l) :: bs)
    | _, _, _ => none

def encode (bytes : List UInt8) : String :=
  String.ofList (digits bytes)

def decode? (text : String) : Option (List UInt8) :=
  bytes? text.toList

end SignInJourney.Hex
