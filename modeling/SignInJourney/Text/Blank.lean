/-! The blank characters of Unicode: those with the property White_Space. -/

namespace SignInJourney.Text

/-- Blank characters, code point by code point or as runs of them. -/
def isBlank (c : Char) : Bool :=
  let n := c.toNat
  (9 ≤ n && n ≤ 13) || n == 0x20 || n == 0x85 || n == 0xA0 || n == 0x1680 ||
    (0x2000 ≤ n && n ≤ 0x200A) || n == 0x2028 || n == 0x2029 || n == 0x202F || n == 0x205F ||
    n == 0x3000

/-- What is left of a text once the blanks in front of it are gone. -/
def dropBlanks (cs : List Char) : List Char :=
  cs.dropWhile isBlank

end SignInJourney.Text
