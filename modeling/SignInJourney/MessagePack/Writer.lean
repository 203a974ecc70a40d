import SignInJourney.Data.Tree

/-!
Trees written as MessagePack, every length and number in its shortest form. What a document of this
library never holds (real numbers, extensions, garbled texts and flaws) is written as nil.
-/

namespace SignInJourney.MessagePack

/-- The lowest `n` bytes of a number, the highest first. -/
def bigEndian : Nat → Nat → List UInt8
  | 0, _ => []
  | n + 1, m => bigEndian n (m / 256) ++ [UInt8.ofNat (m % 256)]

def natBytes (n : Nat) : List UInt8 :=
  if n < 0x80 then [UInt8.ofNat n]
  else if n < UInt8.size then 0xCC :: bigEndian 1 n
  else if n < UInt16.size then 0xCD :: bigEndian 2 n
  else if n < UInt32.size then 0xCE :: bigEndian 4 n
  else 0xCF :: bigEndian 8 n

def intBytes (n : Int) : List UInt8 :=
  if 0 ≤ n then natBytes n.toNat
  else if -32 ≤ n then [UInt8.ofNat (256 + n).toNat]
  else if -0x80 ≤ n then 0xD0 :: bigEndian 1 (UInt8.size + n).toNat
  else if -0x8000 ≤ n then 0xD1 :: bigEndian 2 (UInt16.size + n).toNat
  else if -0x80000000 ≤ n then 0xD2 :: bigEndian 4 (UInt32.size + n).toNat
  else 0xD3 :: bigEndian 8 (UInt64.size + n).toNat

/-- The bytes of a text in UTF-8. -/
def utf8 (s : String) : List UInt8 :=
  s.toUTF8.data.toList

def textHead (n : Nat) : List UInt8 :=
  if n < 32 then [UInt8.ofNat (0xA0 + n)]
  else if n < UInt8.size then 0xD9 :: bigEndian 1 n
  else if n < UInt16.size then 0xDA :: bigEndian 2 n
  else 0xDB :: bigEndian 4 n

def binaryHead (n : Nat) : List UInt8 :=
  if n < UInt8.size then 0xC4 :: bigEndian 1 n
  else if n < UInt16.size then 0xC5 :: bigEndian 2 n
  else 0xC6 :: bigEndian 4 n

def listHead (n : Nat) : List UInt8 :=
  if n < 16 then [UInt8.ofNat (0x90 + n)]
  else if n < UInt16.size then 0xDC :: bigEndian 2 n
  else 0xDD :: bigEndian 4 n

def dictHead (n : Nat) : List UInt8 :=
  if n < 16 then [UInt8.ofNat (0x80 + n)]
  else if n < UInt16.size then 0xDE :: bigEndian 2 n
  else 0xDF :: bigEndian 4 n

mutual

def write : Tree → List UInt8
  | .bool b => [if b then 0xC3 else 0xC2]
  | .uint n _ => natBytes n
  | .sint n => intBytes n
  | .text s => textHead (utf8 s).length ++ utf8 s
  | .bytes bs => binaryHead bs.length ++ bs
  | .list items => listHead items.length ++ writeItems items
  | .dict entries => dictHead entries.length ++ writeEntries entries
  | .null | .real _ | .garbled | .extension | .flawed => [0xC0]

def writeItems : List Tree → List UInt8
  | [] => []
  | t :: rest => write t ++ writeItems rest

def writeEntries : List (Tree × Tree) → List UInt8
  | [] => []
  | (k, v) :: rest => write k ++ write v ++ writeEntries rest

end

end SignInJourney.MessagePack
