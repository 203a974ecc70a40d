import SignInJourney.Text.Blank
import SignInJourney.Text.Digits
import SignInJourney.Time.Instant

/-!
Instants as text. Writing follows RFC 3339 with the fewest of 0, 3, 6 and 9 fraction digits that
lose nothing, a leap second as second 60, and a sign before a year outside 0 to 9999. Reading
accepts what is written and is lenient about letter case, blanks between the parts, unpadded
numbers, long fractions and the offset.
-/

namespace SignInJourney.Time

open Text

/-- How the offset of universal time is written. -/
inductive ZoneText
  | zulu
  | numeric
  | name
  deriving DecidableEq, Repr

namespace Instant

/-- A year: four digits, with a sign in front and more digits if those do not hold it. -/
def yearText (year : Int) : List Char :=
  if 0 ≤ year ∧ year ≤ 9999 then padded 4 year.toNat
  else
    let n := year.natAbs
    let width := if n < 10000 then 4 else if n < 100000 then 5 else 6
    (if year < 0 then '-' else '+') :: padded width n

/-- A fraction of a second, in the fewest of 0, 3, 6 and 9 digits. -/
def fractionText (nanos : Nat) : List Char :=
  if nanos = 0 then []
  else if nanos % 1000000 = 0 then '.' :: padded 3 (nanos / 1000000)
  else if nanos % 1000 = 0 then '.' :: padded 6 (nanos / 1000)
  else '.' :: padded 9 nanos

def dateText (date : CivilDate) : List Char :=
  yearText date.year ++ '-' :: padded 2 date.month ++ '-' :: padded 2 date.day

/-- A time of day; a leap second is second 60. -/
def clockText (secondOfDay nanos : Nat) : List Char :=
  let leap := nanos / 1000000000
  padded 2 (secondOfDay / 3600) ++ ':' :: padded 2 (secondOfDay / 60 % 60) ++
    ':' :: padded 2 (secondOfDay % 60 + leap) ++ fractionText (nanos % 1000000000)

def date (t : Instant) : CivilDate :=
  CivilDate.ofDays (t.seconds / 86400)

def secondOfDay (t : Instant) : Nat :=
  (t.seconds % 86400).toNat

def zoneText : ZoneText → List Char
  | .zulu => ['Z']
  | .numeric => ['+', '0', '0', ':', '0', '0']
  | .name => [' ', 'U', 'T', 'C']

/-- Date, separator, time of day and zone. -/
def chars (separator : Char) (zone : ZoneText) (t : Instant) : List Char :=
  dateText t.date ++ separator :: clockText t.secondOfDay t.nanos ++ zoneText zone

/-- The form in documents: `2024-01-01T00:00:00.500Z`. -/
def text (t : Instant) : String :=
  String.ofList (t.chars 'T' .zulu)

/-- The form in audit details: `2024-01-01T00:00:00.500+00:00`. -/
def offsetText (t : Instant) : String :=
  String.ofList (t.chars 'T' .numeric)

/-- The form in messages: `2024-01-01 00:00:00.500 UTC`. -/
def displayText (t : Instant) : String :=
  String.ofList (t.chars ' ' .name)

/-- What follows a given character. -/
def after? (c : Char) : List Char → Option (List Char)
  | x :: rest => if x = c then some rest else none
  | [] => none

/-- A number of one or two digits within bounds, blanks in front. -/
def small? (low high : Nat) (cs : List Char) : Option (Nat × List Char) := do
  let (n, rest) ← number? 2 (dropBlanks cs)
  if low ≤ n ∧ n ≤ high then some (n, rest) else none

/-- A year: signed with any number of digits, or unsigned with at most four. -/
def year? (cs : List Char) : Option (Int × List Char) :=
  match dropBlanks cs with
  | '-' :: rest => (number? rest.length rest).map fun (n, rest) => (-(n : Int), rest)
  | '+' :: rest => (number? rest.length rest).map fun (n, rest) => ((n : Int), rest)
  | cs => (number? 4 cs).map fun (n, rest) => ((n : Int), rest)

def date? (cs : List Char) : Option (CivilDate × List Char) := do
  let (year, cs) ← year? cs
  let cs ← after? '-' (dropBlanks cs)
  let (month, cs) ← small? 1 12 cs
  let cs ← after? '-' (dropBlanks cs)
  let (day, cs) ← small? 1 31 cs
  let date : CivilDate := { year := year, month := month, day := day }
  if date.isValid then some (date, cs) else none

/-- A fraction after a point, in nanoseconds: digits past the ninth are passed over. -/
def fraction? : List Char → Option (Nat × List Char)
  | '.' :: cs => do
    let (n, rest) ← number? 9 cs
    some (n * Nat.pow 10 (9 - (cs.length - rest.length)), rest.dropWhile Char.isDigit)
  | cs => some (0, cs)

/-- A time of day as its second and nanoseconds; second 60 is second 59 and a second more. -/
def clock? (cs : List Char) : Option (Nat × Nat × List Char) := do
  let (hour, cs) ← small? 0 23 cs
  let cs ← after? ':' (dropBlanks cs)
  let (minute, cs) ← small? 0 59 cs
  let cs ← after? ':' (dropBlanks cs)
  let (second, cs) ← small? 0 60 cs
  let (nanos, cs) ← fraction? cs
  let leap := second / 60
  some (hour * 3600 + minute * 60 + second - leap, nanos + leap * 1000000000, cs)

/-- Two digits that must both be there. -/
def twoDigits? : List Char → Option (Nat × List Char)
  | a :: b :: rest => if a.isDigit ∧ b.isDigit then some (ofDigits [a, b], rest) else none
  | _ => none

/-- An offset in seconds east: hours and minutes behind a sign, with colons or blanks between or
not, less than a day. -/
def signedOffset? (cs : List Char) : Option (Int × List Char) := do
  let (sign, cs) ← match cs with
    | '+' :: rest => some ((1 : Int), rest)
    | '-' :: rest => some (-1, rest)
    | '−' :: rest => some (-1, rest)
    | _ => none
  let (hours, cs) ← twoDigits? cs
  let (minutes, cs) ← twoDigits? (cs.dropWhile fun c => c == ':' || isBlank c)
  if minutes < 60 ∧ hours < 24 then some (sign * (hours * 3600 + minutes * 60 : Nat), cs) else none

/-- The zone: `Z`, `UTC` in either case, or a signed offset. -/
def zone? (cs : List Char) : Option (Int × List Char) :=
  match cs with
  | 'Z' :: rest | 'z' :: rest => some (0, rest)
  | a :: b :: c :: rest =>
    if a.toUpper = 'U' ∧ b.toUpper = 'T' ∧ c.toUpper = 'C' then some (0, rest) else signedOffset? cs
  | _ => none

/-- The instant that a text names. -/
def ofText? (s : String) : Option Instant := do
  let (date, cs) ← date? s.toList
  let cs ← match cs with
    | 'T' :: rest | 't' :: rest | ' ' :: rest => some rest
    | _ => none
  let (second, nanos, cs) ← clock? cs
  let (offset, cs) ← zone? (dropBlanks cs)
  if (dropBlanks cs).isEmpty then do
    let there ← of? (date.toDays * 86400 + second) nanos
    of? (there.seconds - offset) there.nanos
  else none

end Instant

end SignInJourney.Time
