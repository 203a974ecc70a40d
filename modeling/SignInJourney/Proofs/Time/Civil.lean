import SignInJourney.Time.Civil

/-!
The calendar inverts: a day's date exists (`isValid_ofDays`) and has that day's number
(`toDays_ofDays`). `Split` is a day of a 400-year era in centuries, four-year groups, single years
and days, with the bounds that the Gregorian rule sets.
-/

namespace SignInJourney.Time.CivilDate

/-- A day of an era, counted from 1 March: after `century` centuries, `quad` groups of four years
and `single` years, day `day` of its year. A leap day is the 366th. -/
structure Split (inEra century quad single day : Nat) : Prop where
  century_le : century ≤ 3
  quad_le : quad ≤ 24
  single_le : single ≤ 3
  day_le : day ≤ 365
  sum : inEra = century * 36524 + quad * 1461 + single * 365 + day
  leap : day = 365 → single = 3 ∧ (quad = 24 → century = 3)

/-- The split that `ofDays` makes. -/
theorem split_of_lt {inEra century inCentury quad inQuad single : Nat} (small : inEra < 146097)
    (hcentury : century = min (inEra / 36524) 3) (hinCentury : inCentury = inEra - century * 36524)
    (hquad : quad = inCentury / 1461) (hinQuad : inQuad = inCentury - quad * 1461)
    (hsingle : single = min (inQuad / 365) 3) :
    Split inEra century quad single (inQuad - single * 365) := by
  have century_le : century ≤ 3 := by omega
  have inCentury_le : inCentury ≤ 36524 ∧ (inCentury = 36524 → century = 3) := by omega
  have quad_le : quad ≤ 24 := by omega
  have inQuad_le : inQuad ≤ 1460 ∧ (quad = 24 → inQuad = 1460 → century = 3) := by omega
  have single_le : single ≤ 3 := by omega
  exact ⟨century_le, quad_le, single_le, by omega, by omega, by omega⟩

/-- The date of day `dayOfYear`, counted from 1 March, of a year of an era. -/
def ofParts (era : Int) (yearOfEra dayOfYear : Nat) : CivilDate :=
  let monthFromMarch := (5 * dayOfYear + 2) / 153
  let month := if monthFromMarch < 10 then monthFromMarch + 3 else monthFromMarch - 9
  { year := era * 400 + yearOfEra + (if month ≤ 2 then 1 else 0)
    month := month
    day := dayOfYear - (153 * monthFromMarch + 2) / 5 + 1 }

theorem ofDays_eq_ofParts (days : Int) :
    ∃ (era : Int) (inEra century quad single day : Nat),
      days + epochShift = era * 146097 + inEra ∧ Split inEra century quad single day ∧
        ofDays days = ofParts era (100 * century + 4 * quad + single) day := by
  have positive : 0 ≤ (days + epochShift) % 146097 := Int.emod_nonneg _ (by decide)
  have small : (days + epochShift) % 146097 < 146097 := Int.emod_lt_of_pos _ (by decide)
  refine ⟨(days + epochShift) / 146097, ((days + epochShift) % 146097).toNat, _, _, _, _, ?_,
    split_of_lt (by omega) rfl rfl rfl rfl rfl, rfl⟩
  rw [Int.toNat_of_nonneg positive]
  omega

section Parts

variable {era : Int} {yearOfEra dayOfYear : Nat}

theorem year_ofParts :
    era * 400 + yearOfEra ≤ (ofParts era yearOfEra dayOfYear).year ∧
      (ofParts era yearOfEra dayOfYear).year ≤ era * 400 + yearOfEra + 1 := by
  unfold ofParts
  simp only
  split <;> split <;> omega

theorem toDays_ofParts (year : yearOfEra < 400) (day : dayOfYear ≤ 365) :
    (ofParts era yearOfEra dayOfYear).toDays =
      era * 146097 + (yearOfEra * 365 + yearOfEra / 4 - yearOfEra / 100 + dayOfYear : Nat) -
        epochShift := by
  unfold toDays ofParts
  generalize hm : (5 * dayOfYear + 2) / 153 = monthFromMarch
  have month_le : monthFromMarch ≤ 11 := by omega
  have start_le : (153 * monthFromMarch + 2) / 5 ≤ dayOfYear := by omega
  -- January and February belong to the next calendar year.
  by_cases early : monthFromMarch < 10
  · have late : ¬ monthFromMarch + 3 ≤ 2 := by omega
    have back : (monthFromMarch + 3 + 9) % 12 = monthFromMarch := by omega
    have sameEra : (era * 400 + yearOfEra + 0) / 400 = era := by omega
    have sameYear : ((era * 400 + yearOfEra + 0) % 400).toNat = yearOfEra := by omega
    simp only [early, if_true, late, if_false, back, sameEra, sameYear]
    omega
  · have next : monthFromMarch - 9 ≤ 2 := by omega
    have back : (monthFromMarch - 9 + 9) % 12 = monthFromMarch := by omega
    have sameEra : (era * 400 + yearOfEra + 1 - 1) / 400 = era := by omega
    have sameYear : ((era * 400 + yearOfEra + 1 - 1) % 400).toNat = yearOfEra := by omega
    simp only [early, next, if_true, if_false, back, sameEra, sameYear]
    omega

theorem isLeapYear_iff {year : Int} :
    isLeapYear year = true ↔ year % 4 = 0 ∧ (year % 100 ≠ 0 ∨ year % 400 = 0) := by
  simp [isLeapYear]

theorem le_monthLength {year : Int} {month day : Nat} (any : day ≤ 31)
    (short : month = 4 ∨ month = 6 ∨ month = 9 ∨ month = 11 → day ≤ 30)
    (february : month = 2 → day ≤ 28 ∨ day = 29 ∧ isLeapYear year = true) :
    day ≤ monthLength year month := by
  simp only [monthLength, Bool.or_eq_true, beq_iff_eq]
  split
  · rename_i second
    rcases february second with common | ⟨last, leap⟩
    · split <;> omega
    · rw [if_pos leap]
      omega
  · split
    · rename_i four
      exact short (by omega)
    · exact any

theorem isValid_ofParts (day : dayOfYear ≤ 365)
    (leap : dayOfYear = 365 → isLeapYear (era * 400 + yearOfEra + 1) = true) :
    (ofParts era yearOfEra dayOfYear).isValid = true := by
  unfold isValid ofParts
  generalize hm : (5 * dayOfYear + 2) / 153 = monthFromMarch
  have month_le : monthFromMarch ≤ 11 := by omega
  simp only [Bool.and_eq_true, decide_eq_true_eq]
  refine ⟨⟨⟨by split <;> omega, by split <;> omega⟩, by omega⟩, ?_⟩
  refine le_monthLength (by omega) (by split <;> omega) fun february => ?_
  have last : monthFromMarch = 11 := by split at february <;> omega
  by_cases leapDay : dayOfYear = 365
  · refine .inr ⟨by omega, ?_⟩
    rw [february, if_pos (by decide)]
    exact leap leapDay
  · exact .inl (by omega)

end Parts

theorem toDays_ofDays (days : Int) : (ofDays days).toDays = days := by
  obtain ⟨era, inEra, century, quad, single, day, shifted, split, date⟩ := ofDays_eq_ofParts days
  obtain ⟨hcentury, hquad, hsingle, hday, sum, -⟩ := split
  rw [date, toDays_ofParts (by omega) hday]
  have quads : (100 * century + 4 * quad + single) / 4 = 25 * century + quad := by omega
  have centuries : (100 * century + 4 * quad + single) / 100 = century := by omega
  rw [quads, centuries]
  omega

/-- The years of the representable days have at most six digits. -/
theorem natAbs_year_lt {days : Int} (ge : -96465293 ≤ days) (le : days ≤ 95026236) :
    (ofDays days).year.natAbs < 1000000 := by
  obtain ⟨era, inEra, century, quad, single, day, shifted, split, date⟩ := ofDays_eq_ofParts days
  obtain ⟨hcentury, hquad, hsingle, hday, sum, -⟩ := split
  have shift : epochShift = 719468 := rfl
  have year := @year_ofParts era (100 * century + 4 * quad + single) day
  rw [date]
  omega

theorem isValid_ofDays (days : Int) : (ofDays days).isValid = true := by
  obtain ⟨era, inEra, century, quad, single, day, -, split, date⟩ := ofDays_eq_ofParts days
  rw [date]
  refine isValid_ofParts split.day_le fun last => ?_
  obtain ⟨lastSingle, lastQuad⟩ := split.leap last
  have hcentury := split.century_le
  have hquad := split.quad_le
  rw [isLeapYear_iff]
  omega

end SignInJourney.Time.CivilDate
