import SignInJourney.Proofs.Time.Rfc3339

/-!
How far a clock can be set forward. Adding a span that does not go back succeeds exactly up to the
last second (`isSome_add?_iff`); a clock in the years that have four digits from 2000 on has
`Instant.room` seconds left.
-/

namespace SignInJourney.Time

namespace CivilDate

/-- January and February belong to the next calendar year. -/
theorem year_ofParts_of_late {era : Int} {yearOfEra dayOfYear : Nat} (late : 306 ≤ dayOfYear)
    (day : dayOfYear ≤ 365) :
    (ofParts era yearOfEra dayOfYear).year = era * 400 + yearOfEra + 1 := by
  unfold ofParts
  have notEarly : ¬ (5 * dayOfYear + 2) / 153 < 10 := by omega
  have winter : (5 * dayOfYear + 2) / 153 - 9 ≤ 2 := by omega
  simp only [notEarly, if_false, winter, if_true]

/-- The last day of the year 9999. -/
theorem le_of_year_ofDays {days : Int} (early : (ofDays days).year ≤ 9999) : days ≤ 2932896 := by
  obtain ⟨era, inEra, century, quad, single, day, shifted, split, date⟩ := ofDays_eq_ofParts days
  obtain ⟨hcentury, hquad, hsingle, hday, sum, -⟩ := split
  have shift : epochShift = 719468 := rfl
  have year := @year_ofParts era (100 * century + 4 * quad + single) day
  rw [date] at early
  refine Int.not_lt.mp fun beyond => ?_
  have lastEra : era = 24 := by omega
  have lastYear : century = 3 ∧ quad = 24 ∧ single = 3 ∧ 306 ≤ day := by omega
  rw [year_ofParts_of_late lastYear.2.2.2 hday] at early
  omega

end CivilDate

theorem Span.seconds_ofSeconds? {n : Int} {span : Span} (h : Span.ofSeconds? n = some span) :
    span.seconds = n := by
  unfold Span.ofSeconds? at h
  split at h
  · cases h
    rfl
  · cases h

theorem Span.exists_ofSeconds? {n : Int} (lower : -9223372036854775 ≤ n)
    (upper : n ≤ 9223372036854775) : ∃ span, Span.ofSeconds? n = some span :=
  ⟨_, dif_pos ⟨lower, upper⟩⟩

namespace Instant

variable {t u : Instant} {span : Span}

theorem isSome_of? {seconds : Int} {nanos : Nat} (after : firstSecond ≤ seconds)
    (small : nanos < 1000000000) :
    (of? seconds nanos).isSome = true ↔ seconds ≤ lastSecond := by
  unfold of?
  split
  · rename_i h
    simp [h.2.1]
  · rename_i h
    simp only [Option.isSome_none, Bool.false_eq_true, false_iff]
    intro before
    exact h ⟨after, before, by omega, by omega⟩

/-- A span that does not go back can be added as long as the last second is not passed. -/
theorem isSome_add?_iff (forward : 0 ≤ span.seconds) :
    (t.add? span).isSome = true ↔ t.seconds + span.seconds ≤ lastSecond := by
  have start := t.first_le
  have small := t.nanos_lt
  have after : firstSecond ≤ t.seconds + span.seconds := by omega
  unfold add?
  split
  · rename_i counted
    exact isSome_of? after counted
  split
  · exact isSome_of? after (by omega)
  split
  · omega
  · have here : span.seconds = 0 := by omega
    simp [here, t.le_last]

theorem seconds_add? (forward : 0 ≤ span.seconds) (sum : t.add? span = some u) :
    u.seconds = t.seconds + span.seconds := by
  unfold add? at sum
  split at sum
  · exact (of?_eq_some sum).1
  split at sum
  · exact (of?_eq_some sum).1
  split at sum
  · omega
  · cases sum
    omega

/-- A clock that shows a year from 2000 to 9999. -/
def IsCurrent (t : Instant) : Prop :=
  2000 ≤ t.date.year ∧ t.date.year ≤ 9999

/-- The second in which the year 9999 ends. -/
def lastCurrent : Int := 253402300799

/-- How many seconds of the representable years come after the year 9999. -/
def room : Int := lastSecond - lastCurrent

theorem IsCurrent.seconds_le (current : t.IsCurrent) : t.seconds ≤ lastCurrent := by
  have days := CivilDate.le_of_year_ofDays current.2
  unfold lastCurrent
  omega

end Instant

end SignInJourney.Time
