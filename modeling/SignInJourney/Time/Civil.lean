/-!
Dates of the proleptic Gregorian calendar and their day numbers. Years run from March to February
inside the computation, so that a leap day is the last day of its year; 400 years are 146097 days.
-/

namespace SignInJourney.Time

structure CivilDate where
  year : Int
  month : Nat
  day : Nat
  deriving DecidableEq, Repr

namespace CivilDate

/-- Days from 1 March of the year 0 to 1 January 1970. -/
def epochShift : Int := 719468

/-- The date that is `days` days after 1 January 1970. -/
def ofDays (days : Int) : CivilDate :=
  let shifted := days + epochShift
  let era := shifted / 146097
  let inEra := (shifted % 146097).toNat
  let century := min (inEra / 36524) 3
  let inCentury := inEra - century * 36524
  let quad := inCentury / 1461
  let inQuad := inCentury - quad * 1461
  let single := min (inQuad / 365) 3
  let dayOfYear := inQuad - single * 365
  let monthFromMarch := (5 * dayOfYear + 2) / 153
  let month := if monthFromMarch < 10 then monthFromMarch + 3 else monthFromMarch - 9
  { year := era * 400 + (100 * century + 4 * quad + single : Nat) + (if month ≤ 2 then 1 else 0)
    month := month
    day := dayOfYear - (153 * monthFromMarch + 2) / 5 + 1 }

/-- The number of days from 1 January 1970 to a date. -/
def toDays (date : CivilDate) : Int :=
  let year := if date.month ≤ 2 then date.year - 1 else date.year
  let era := year / 400
  let yearOfEra := (year % 400).toNat
  let monthFromMarch := (date.month + 9) % 12
  let dayOfYear := (153 * monthFromMarch + 2) / 5 + date.day - 1
  era * 146097 + (yearOfEra * 365 + yearOfEra / 4 - yearOfEra / 100 + dayOfYear : Nat) - epochShift

def isLeapYear (year : Int) : Bool :=
  year % 4 == 0 && (year % 100 != 0 || year % 400 == 0)

def monthLength (year : Int) (month : Nat) : Nat :=
  if month == 2 then (if isLeapYear year then 29 else 28)
  else if month == 4 || month == 6 || month == 9 || month == 11 then 30
  else 31

/-- A date that the calendar has. -/
def isValid (date : CivilDate) : Bool :=
  1 ≤ date.month && date.month ≤ 12 && 1 ≤ date.day && date.day ≤ monthLength date.year date.month

end CivilDate

end SignInJourney.Time
