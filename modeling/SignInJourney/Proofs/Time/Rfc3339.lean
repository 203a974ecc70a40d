import SignInJourney.Proofs.Text.Digits
import SignInJourney.Proofs.Time.Civil
import SignInJourney.Time.Rfc3339

/-!
Instants read back from their text: every instant of the range, with its fraction, in its leap
second and in years of any sign and length (`ofText?_text`). Each part of the text is read up to the
part behind it. The text is never long (`utf8ByteSize_text_lt`).
-/

namespace SignInJourney.Time.Instant

open Text

theorem after?_self (c : Char) (rest : List Char) : after? c (c :: rest) = some rest :=
  if_pos rfl

theorem small?_padded {low high n : Nat} (ge : low ≤ n) (le : n ≤ high) (small : n < 100)
    (rest : List Char) : small? low high (padded 2 n ++ rest) = some (n, rest) := by
  simp only [small?, dropBlanks_padded (show 0 < 2 by decide),
    number?_padded (show 0 < 2 by decide) small, Option.bind_eq_bind, Option.bind_some, ge, le,
    and_self, if_true]

/-! ### Dates -/

theorem year?_unsigned {n : Nat} (small : n < 10000) (rest : List Char) :
    year? (padded 4 n ++ rest) = some ((n : Int), rest) := by
  have unsigned : ∀ {c cs}, padded 4 n ++ rest = c :: cs → c.isDigit = true :=
    isDigit_of_padded_append (by decide)
  unfold year?
  rw [dropBlanks_padded (by decide)]
  split
  · rename_i start
    exact absurd (unsigned start) (by decide)
  · rename_i start
    exact absurd (unsigned start) (by decide)
  · rw [number?_padded (by decide) small, Option.map_some]

/-- Behind a sign a year may have any number of digits. -/
theorem number?_year {width n : Nat} (wide : 0 < width) (small : n < 10 ^ width)
    (rest : List Char) :
    number? (padded width n ++ '-' :: rest).length (padded width n ++ '-' :: rest) =
      some (n, '-' :: rest) := by
  have ends : ∀ c ∈ ('-' :: rest).head?, c.isDigit = false := by
    rintro c ⟨⟩
    rfl
  have fits : (padded width n).length ≤ (padded width n ++ '-' :: rest).length := by
    rw [List.length_append]
    exact Nat.le_add_right _ _
  have read := number?_append (fun c => isDigit_of_mem_padded) (padded_ne_nil n wide) fits
    (.inr ends)
  rwa [ofDigits_padded small] at read

theorem year?_minus (cs : List Char) :
    year? ('-' :: cs) = (number? cs.length cs).map fun (n, rest) => (-(n : Int), rest) := rfl

theorem year?_plus (cs : List Char) :
    year? ('+' :: cs) = (number? cs.length cs).map fun (n, rest) => ((n : Int), rest) := rfl

theorem year?_signed {width : Nat} {year : Int} {sign : Char} (wide : 0 < width)
    (small : year.natAbs < 10 ^ width) (sign_eq : sign = if year < 0 then '-' else '+')
    (rest : List Char) :
    year? (sign :: padded width year.natAbs ++ '-' :: rest) = some (year, '-' :: rest) := by
  have read := number?_year wide small rest
  by_cases negative : year < 0
  · rw [if_pos negative] at sign_eq
    subst sign_eq
    have value : -(year.natAbs : Int) = year := by omega
    simp only [List.cons_append, year?_minus, read, Option.map_some, value]
  · rw [if_neg negative] at sign_eq
    subst sign_eq
    have value : (year.natAbs : Int) = year := by omega
    simp only [List.cons_append, year?_plus, read, Option.map_some, value]

theorem year?_yearText {year : Int} (small : year.natAbs < 1000000) (rest : List Char) :
    year? (yearText year ++ '-' :: rest) = some (year, '-' :: rest) := by
  unfold yearText
  split
  · rename_i unsigned
    rw [year?_unsigned (by omega), Int.toNat_of_nonneg unsigned.1]
  · refine year?_signed ?_ ?_ rfl rest
    · split
      · decide
      · split <;> decide
    · split
      · assumption
      · split
        · assumption
        · exact small

theorem dropBlanks_cons {c : Char} (visible : isBlank c = false) (cs : List Char) :
    dropBlanks (c :: cs) = c :: cs := by
  simp [dropBlanks, visible]

theorem monthLength_le (year : Int) (month : Nat) : CivilDate.monthLength year month ≤ 31 := by
  unfold CivilDate.monthLength
  split
  · split <;> decide
  · split <;> decide

theorem date?_dateText {date : CivilDate} (valid : date.isValid = true)
    (small : date.year.natAbs < 1000000) (rest : List Char) :
    date? (dateText date ++ rest) = some (date, rest) := by
  have bounds := valid
  simp only [CivilDate.isValid, Bool.and_eq_true, decide_eq_true_eq] at bounds
  obtain ⟨⟨⟨month_ge, month_le⟩, day_ge⟩, day_le⟩ := bounds
  have day_le_31 := Nat.le_trans day_le (monthLength_le date.year date.month)
  have hyphen : ∀ cs, dropBlanks ('-' :: cs) = '-' :: cs := dropBlanks_cons rfl
  have text : dateText date ++ rest =
      yearText date.year ++ '-' :: (padded 2 date.month ++ '-' :: (padded 2 date.day ++ rest)) := by
    simp [dateText]
  rw [text, date?, year?_yearText small]
  simp only [Option.bind_eq_bind, Option.bind_some, hyphen, after?_self,
    small?_padded month_ge month_le (by omega), small?_padded day_ge day_le_31 (by omega), valid,
    if_true]

/-! ### Times of day -/

theorem fraction?_point {width n : Nat} (wide : 0 < width) (le : width ≤ 9)
    (small : n < 10 ^ width) (rest : List Char) :
    fraction? ('.' :: padded width n ++ 'Z' :: rest) =
      some (n * 10 ^ (9 - width), 'Z' :: rest) := by
  have ends : ∀ c ∈ ('Z' :: rest).head?, c.isDigit = false := by
    rintro c ⟨⟩
    rfl
  have fits : (padded width n).length ≤ 9 := by rwa [length_padded]
  have read := number?_append (fun c => isDigit_of_mem_padded) (padded_ne_nil n wide) fits
    (.inr ends)
  rw [ofDigits_padded small] at read
  have behind : ('Z' :: rest).dropWhile Char.isDigit = 'Z' :: rest := rfl
  have count : (padded width n ++ 'Z' :: rest).length - ('Z' :: rest).length = width := by
    rw [List.length_append, length_padded, Nat.add_sub_cancel]
  rw [List.cons_append, fraction?, read]
  simp only [Option.bind_eq_bind, Option.bind_some, behind, count]
  rfl

/-- Whatever number of digits a fraction is written in, none of it is lost. -/
theorem fraction?_fractionText {nanos : Nat} (small : nanos < 1000000000) (rest : List Char) :
    fraction? (fractionText nanos ++ 'Z' :: rest) = some (nanos, 'Z' :: rest) := by
  unfold fractionText
  split
  · rename_i none
    rw [none]
    rfl
  · split
    · rename_i thousandths
      have whole : nanos / 1000000 * 10 ^ (9 - 3) = nanos := by omega
      rw [fraction?_point (by decide) (by decide) (by omega), whole]
    · split
      · rename_i millionths
        have whole : nanos / 1000 * 10 ^ (9 - 6) = nanos := by omega
        rw [fraction?_point (by decide) (by decide) (by omega), whole]
      · rw [fraction?_point (by decide) (by decide) (by omega), Nat.sub_self, Nat.pow_zero,
          Nat.mul_one]

/-- A leap second is read from second 60. -/
theorem clock?_clockText {second nanos : Nat} (inDay : second < 86400)
    (small : nanos < 2000000000) (leap : 1000000000 ≤ nanos → second % 60 = 59)
    (rest : List Char) :
    clock? (clockText second nanos ++ 'Z' :: rest) = some (second, nanos, 'Z' :: rest) := by
  have colon : ∀ cs, dropBlanks (':' :: cs) = ':' :: cs := dropBlanks_cons rfl
  generalize hleap : nanos / 1000000000 = extra
  have text : clockText second nanos ++ 'Z' :: rest =
      padded 2 (second / 3600) ++ ':' :: (padded 2 (second / 60 % 60) ++
        ':' :: (padded 2 (second % 60 + extra) ++
          (fractionText (nanos % 1000000000) ++ 'Z' :: rest))) := by
    simp [clockText, hleap]
  have atMost : extra ≤ 1 ∧ (extra = 1 → second % 60 = 59) := by omega
  have extra_eq : (second % 60 + extra) / 60 = extra := by omega
  rw [text, clock?]
  simp only [Option.bind_eq_bind, Option.bind_some, colon, after?_self,
    small?_padded (Nat.zero_le _) (show second / 3600 ≤ 23 by omega) (by omega),
    small?_padded (Nat.zero_le _) (show second / 60 % 60 ≤ 59 by omega) (by omega),
    small?_padded (Nat.zero_le _) (show second % 60 + extra ≤ 60 by omega) (by omega),
    fraction?_fractionText (Nat.mod_lt nanos (show 0 < 1000000000 by decide)), extra_eq]
  congr 2
  · omega
  · congr 1
    omega

/-! ### Instants -/

/-- An instant is read back from its text. -/
theorem ofText?_text (t : Instant) : ofText? t.text = some t := by
  have first_le := t.first_le
  have le_last := t.le_last
  simp only [firstSecond, lastSecond] at first_le le_last
  have small : t.date.year.natAbs < 1000000 :=
    CivilDate.natAbs_year_lt (by omega) (by omega)
  have date : date? (t.chars 'T' .zulu) =
      some (t.date, 'T' :: (clockText t.secondOfDay t.nanos ++ ['Z'])) := by
    rw [chars, List.append_assoc, zoneText]
    exact date?_dateText (CivilDate.isValid_ofDays _) small _
  have inDay : t.secondOfDay < 86400 := by
    unfold secondOfDay
    omega
  have clock := clock?_clockText inDay t.nanos_lt (by
    intro leap
    have := t.leap leap
    unfold secondOfDay
    omega) []
  have zone : zone? (dropBlanks ['Z']) = some (0, []) := rfl
  have seconds : t.date.toDays * 86400 + (t.secondOfDay : Int) = t.seconds := by
    rw [Instant.date, CivilDate.toDays_ofDays]
    unfold secondOfDay
    omega
  have nothing : (dropBlanks []).isEmpty = true := rfl
  rw [ofText?, text, String.toList_ofList, date]
  simp only [Option.bind_eq_bind, Option.bind_some, clock, zone, nothing, if_true, seconds,
    of?_self, Int.sub_zero]

/-! ### Lengths -/

theorem utf8ByteSize_ofList_le (cs : List Char) :
    (String.ofList cs).utf8ByteSize ≤ 4 * cs.length := by
  rw [String.utf8ByteSize, String.toByteArray_ofList]
  induction cs with
  | nil => simp
  | cons c cs ih =>
    have one : [c].utf8Encode.size ≤ 4 := by
      rw [List.utf8Encode_singleton, List.size_toByteArray, String.length_utf8EncodeChar]
      exact c.utf8Size_le_four
    rw [List.utf8Encode_cons, ByteArray.size_append, List.length_cons]
    omega

theorem length_yearText_le (year : Int) : (yearText year).length ≤ 7 := by
  unfold yearText
  split
  · simp [length_padded]
  · simp only [List.length_cons, length_padded]
    split
    · decide
    · split <;> decide

theorem length_fractionText_le (nanos : Nat) : (fractionText nanos).length ≤ 10 := by
  unfold fractionText
  split
  · decide
  split
  · simp [length_padded]
  split
  · simp [length_padded]
  · simp [length_padded]

theorem length_chars_le (separator : Char) (t : Instant) :
    (t.chars separator .zulu).length ≤ 40 := by
  have year := length_yearText_le t.date.year
  have fraction := length_fractionText_le (t.nanos % 1000000000)
  simp only [chars, dateText, clockText, zoneText, List.length_append, List.length_cons,
    length_padded, List.length_nil]
  omega

/-- However far an instant is off, its text is short. -/
theorem utf8ByteSize_text_lt (t : Instant) : t.text.utf8ByteSize < UInt32.size := by
  have bytes : t.text.utf8ByteSize ≤ 4 * (t.chars 'T' .zulu).length := utf8ByteSize_ofList_le _
  have short := length_chars_le 'T' t
  have size : UInt32.size = 4294967296 := rfl
  omega

end SignInJourney.Time.Instant
