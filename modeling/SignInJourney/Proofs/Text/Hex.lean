import SignInJourney.Text.Hex

/-!
Hexadecimal digits in both directions. A character has a value exactly if it is one of the
twenty-two digits (`exists_value?_iff`), and digits stand for some bytes exactly if, in lower case,
they are the ones that the bytes are written in (`bytes?_eq_some_iff`). So any run of digits that
pairs off is read (`exists_bytes?_iff`).
-/

namespace SignInJourney.Hex

/-- A hexadecimal digit in either case. -/
def IsDigit (c : Char) : Prop :=
  ('0' ≤ c ∧ c ≤ '9') ∨ ('a' ≤ c ∧ c ≤ 'f') ∨ ('A' ≤ c ∧ c ≤ 'F')

/-! ### One digit -/

theorem exists_value?_iff {c : Char} : (∃ n, value? c = some n) ↔ IsDigit c := by
  unfold value? IsDigit
  split
  · simp [*]
  · split
    · simp [*]
    · split <;> simp [*]

/-- What holds of the first 128 characters one by one holds of each of them. -/
theorem forall_ascii {P : Char → Prop} (all : ∀ n : Fin 128, P (Char.ofNat n)) {c : Char}
    (ascii : c.toNat < 128) : P c := by
  have here := all ⟨c.toNat, ascii⟩
  rwa [Char.ofNat_toNat] at here

theorem IsDigit.ascii {c : Char} (digit : IsDigit c) : c.toNat < 128 := by
  have nine : '9'.toNat = 57 := rfl
  have f : 'f'.toNat = 102 := rfl
  have upperF : 'F'.toNat = 70 := rfl
  simp only [IsDigit, Char.le_def, UInt32.le_iff_toNat_le, Char.toNat_val] at digit
  omega

theorem toLower_of_not_ascii {c : Char} (other : ¬ c.toNat < 128) : c.toLower = c := by
  have z : 'Z'.toNat = 90 := rfl
  refine dif_neg fun upper => ?_
  have bound := UInt32.le_iff_toNat_le.mp upper.2
  simp only [Char.toNat_val] at bound
  omega

/-- The case of a digit makes no difference to its value. -/
theorem value?_toLower (c : Char) : value? c.toLower = value? c := by
  by_cases ascii : c.toNat < 128
  · exact forall_ascii (P := fun c => value? c.toLower = value? c) (by decide +kernel) ascii
  · rw [toLower_of_not_ascii ascii]

theorem value?_digit {n : Nat} (h : n < 16) : value? (digit n) = some n := by
  have all : ∀ n : Fin 16, value? (digit n) = some n.val := by decide
  exact all ⟨n, h⟩

/-- A character has the value whose digit it is in lower case. -/
theorem value?_eq_some_iff {c : Char} {n : Nat} :
    value? c = some n ↔ n < 16 ∧ c.toLower = digit n := by
  constructor
  · intro read
    have ascii : c.toNat < 128 := (exists_value?_iff.mp ⟨n, read⟩).ascii
    exact forall_ascii (P := fun c => ∀ n ∈ value? c, n < 16 ∧ c.toLower = digit n)
      (by decide +kernel) ascii n read
  · rintro ⟨small, lower⟩
    rw [← value?_toLower, lower, value?_digit small]

/-! ### The digits of a byte -/

theorem value?_high (b : UInt8) : value? (digit (b.toNat / 16)) = some (b.toNat / 16) :=
  value?_digit (by have := b.toNat_lt; omega)

theorem value?_low (b : UInt8) : value? (digit (b.toNat % 16)) = some (b.toNat % 16) :=
  value?_digit (by omega)

theorem ofNat_halves (b : UInt8) : UInt8.ofNat (16 * (b.toNat / 16) + b.toNat % 16) = b := by
  rw [Nat.div_add_mod]
  exact UInt8.ofNat_toNat

theorem pair_ofHalves {h l : Nat} (high : h < 16) (low : l < 16) :
    pair (UInt8.ofNat (16 * h + l)) = [digit h, digit l] := by
  have byte : (UInt8.ofNat (16 * h + l)).toNat = 16 * h + l :=
    UInt8.toNat_ofNat_of_lt' (by change 16 * h + l < 256; omega)
  have front : (16 * h + l) / 16 = h := by omega
  have back : (16 * h + l) % 16 = l := by omega
  rw [pair, byte, front, back]

/-! ### Runs of digits -/

theorem digits_cons (b : UInt8) (rest : List UInt8) :
    digits (b :: rest) = digit (b.toNat / 16) :: digit (b.toNat % 16) :: digits rest := rfl

theorem length_digits (bytes : List UInt8) : (digits bytes).length = 2 * bytes.length := by
  induction bytes with
  | nil => rfl
  | cons b rest ih =>
    rw [digits_cons, List.length_cons, List.length_cons, ih, List.length_cons]
    omega

theorem isDigit_of_mem_digits {bytes : List UInt8} {c : Char} (member : c ∈ digits bytes) :
    IsDigit c := by
  obtain ⟨b, -, half⟩ := List.mem_flatMap.mp member
  simp only [pair, List.mem_cons, List.not_mem_nil, or_false] at half
  rcases half with rfl | rfl
  · exact exists_value?_iff.mp ⟨_, value?_high b⟩
  · exact exists_value?_iff.mp ⟨_, value?_low b⟩

theorem bytes?_digits (bytes : List UInt8) : bytes? (digits bytes) = some bytes := by
  induction bytes with
  | nil => rfl
  | cons b rest ih => simp only [digits_cons, bytes?, value?_high, value?_low, ih, ofNat_halves]

theorem map_toLower_of_bytes? {cs : List Char} {bytes : List UInt8}
    (read : bytes? cs = some bytes) : cs.map Char.toLower = digits bytes := by
  fun_induction bytes? cs generalizing bytes with
  | case1 =>
    cases read
    rfl
  | case2 => cases read
  | case3 high low rest h l bs readRest readLow readHigh ih =>
    obtain ⟨smallHigh, lowerHigh⟩ := value?_eq_some_iff.mp readHigh
    obtain ⟨smallLow, lowerLow⟩ := value?_eq_some_iff.mp readLow
    cases read
    calc (high :: low :: rest).map Char.toLower
        = [digit h, digit l] ++ digits bs := by
          rw [List.map_cons, List.map_cons, lowerHigh, lowerLow, ih readRest]
          rfl
      _ = digits (UInt8.ofNat (16 * h + l) :: bs) := by
          rw [← pair_ofHalves smallHigh smallLow]
          rfl
  | case4 => cases read

theorem bytes?_map_toLower (cs : List Char) : bytes? (cs.map Char.toLower) = bytes? cs := by
  fun_induction bytes? cs with
  | case1 => rfl
  | case2 => rfl
  | case3 high low rest h l bs readRest readLow readHigh ih =>
    simp only [List.map_cons, bytes?, value?_toLower, readHigh, readLow, ih, readRest]
  | case4 high low rest unread ih =>
    simp only [List.map_cons, bytes?, value?_toLower, ih]

/-- Digits stand for the bytes that they are the digits of in lower case. -/
theorem bytes?_eq_some_iff {cs : List Char} {bytes : List UInt8} :
    bytes? cs = some bytes ↔ cs.map Char.toLower = digits bytes := by
  refine ⟨map_toLower_of_bytes?, fun lower => ?_⟩
  rw [← bytes?_map_toLower, lower, bytes?_digits]

section Read

variable {cs : List Char} {bytes : List UInt8}

theorem length_of_bytes? (read : bytes? cs = some bytes) : cs.length = 2 * bytes.length := by
  rw [← length_digits, ← bytes?_eq_some_iff.mp read, List.length_map]

theorem isDigit_of_bytes? (read : bytes? cs = some bytes) : ∀ c ∈ cs, IsDigit c := by
  intro c member
  have lower : c.toLower ∈ digits bytes :=
    bytes?_eq_some_iff.mp read ▸ List.mem_map_of_mem member
  rw [← exists_value?_iff, ← value?_toLower, exists_value?_iff]
  exact isDigit_of_mem_digits lower

/-- Digits that pair off stand for some bytes. -/
theorem exists_bytes? (even : cs.length % 2 = 0) (all : ∀ c ∈ cs, IsDigit c) :
    ∃ bytes, bytes? cs = some bytes := by
  fun_induction bytes? cs with
  | case1 => exact ⟨[], rfl⟩
  | case2 => cases even
  | case3 => exact ⟨_, rfl⟩
  | case4 high low rest unread ih =>
    -- Both digits have values and the rest is read, so this arm is not reached.
    simp only [List.forall_mem_cons] at all
    obtain ⟨digitHigh, digitLow, others⟩ := all
    obtain ⟨h, readHigh⟩ := exists_value?_iff.mpr digitHigh
    obtain ⟨l, readLow⟩ := exists_value?_iff.mpr digitLow
    rw [List.length_cons, List.length_cons] at even
    obtain ⟨bytes, readRest⟩ := ih (by omega) others
    exact (unread h l bytes readHigh readLow readRest).elim

/-- Digits are read as so many bytes exactly if there are twice as many of them and nothing else. -/
theorem exists_bytes?_iff {n : Nat} :
    (∃ bytes, bytes? cs = some bytes ∧ bytes.length = n) ↔
      cs.length = 2 * n ∧ ∀ c ∈ cs, IsDigit c := by
  constructor
  · rintro ⟨bytes, read, rfl⟩
    exact ⟨length_of_bytes? read, isDigit_of_bytes? read⟩
  · rintro ⟨twice, all⟩
    obtain ⟨bytes, read⟩ := exists_bytes? (by omega) all
    have length := length_of_bytes? read
    exact ⟨bytes, read, by omega⟩

end Read

/-! ### Texts -/

theorem decode?_encode (bytes : List UInt8) : decode? (encode bytes) = some bytes := by
  rw [decode?, encode, String.toList_ofList, bytes?_digits]

theorem decode?_eq_some_iff {text : String} {bytes : List UInt8} :
    decode? text = some bytes ↔ encode bytes = text.toLower := by
  have lower : text.toLower.toList = text.toList.map Char.toLower := String.toList_map
  rw [decode?, bytes?_eq_some_iff, encode, ← String.toList_inj, lower, String.toList_ofList,
    eq_comm]

end SignInJourney.Hex
