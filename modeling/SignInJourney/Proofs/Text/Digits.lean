import Mathlib.Algebra.Group.Nat.Defs
import SignInJourney.Text.Blank
import SignInJourney.Text.Digits

/-!
Decimal digits read back: a number written to a width that holds it is read as that number
(`number?_padded`), and is never taken for a blank (`dropBlanks_padded`).
-/

namespace SignInJourney.Text

theorem isDigit_digit (n : Nat) : (Char.ofNat (48 + n % 10)).isDigit = true := by
  have all : ∀ n : Fin 10, (Char.ofNat (48 + n.val)).isDigit = true := by decide
  exact all ⟨n % 10, Nat.mod_lt n (by decide)⟩

theorem toNat_digit (n : Nat) : (Char.ofNat (48 + n % 10)).toNat = 48 + n % 10 := by
  have all : ∀ n : Fin 10, (Char.ofNat (48 + n.val)).toNat = 48 + n.val := by decide
  exact all ⟨n % 10, Nat.mod_lt n (by decide)⟩

theorem isBlank_of_isDigit {c : Char} (digit : c.isDigit = true) : isBlank c = false := by
  have bounds : 48 ≤ c.toNat ∧ c.toNat ≤ 57 := by
    simpa [Char.isDigit, UInt32.le_iff_toNat_le] using digit
  simp only [isBlank, Bool.or_eq_false_iff, Bool.and_eq_false_iff, decide_eq_false_iff_not,
    beq_eq_false_iff_ne]
  omega

theorem isDigit_of_mem_padded {width n : Nat} {c : Char} (digit : c ∈ padded width n) :
    c.isDigit = true := by
  induction width generalizing n with
  | zero => simp [padded] at digit
  | succ width ih =>
    rcases List.mem_append.mp digit with front | last
    · exact ih front
    · rw [List.mem_singleton] at last
      exact last ▸ isDigit_digit n

theorem padded_ne_nil {width : Nat} (n : Nat) (wide : 0 < width) : padded width n ≠ [] := by
  rw [← List.length_pos_iff, length_padded]
  exact wide

/-- A padded number starts with a digit. -/
theorem isDigit_of_padded_append {width n : Nat} {c : Char} {rest cs : List Char}
    (wide : 0 < width) (start : padded width n ++ rest = c :: cs) : c.isDigit = true := by
  cases digits : padded width n with
  | nil => exact absurd digits (padded_ne_nil n wide)
  | cons d ds =>
    rw [digits, List.cons_append, List.cons.injEq] at start
    have first : d ∈ padded width n := digits ▸ List.mem_cons_self
    exact start.1 ▸ isDigit_of_mem_padded first

theorem dropBlanks_padded {width n : Nat} (wide : 0 < width) (rest : List Char) :
    dropBlanks (padded width n ++ rest) = padded width n ++ rest := by
  cases start : padded width n ++ rest with
  | nil => rfl
  | cons c cs =>
    have first : isBlank c = false := isBlank_of_isDigit (isDigit_of_padded_append wide start)
    simp [dropBlanks, first]

theorem ofDigits_padded {width n : Nat} (small : n < 10 ^ width) :
    ofDigits (padded width n) = n := by
  induction width generalizing n with
  | zero =>
    rw [Nat.pow_zero] at small
    have none : n = 0 := by omega
    rw [none]
    rfl
  | succ width ih =>
    have front : ofDigits (padded width (n / 10)) = n / 10 := ih (by
      rw [Nat.pow_succ] at small
      exact Nat.div_lt_of_lt_mul (by omega))
    rw [ofDigits] at front ⊢
    rw [padded, List.foldl_append, front]
    simp only [List.foldl_cons, List.foldl_nil, toNat_digit]
    omega

section Digits

variable {ds rest : List Char}

theorem takeWhile_digits (digits : ∀ c ∈ ds, c.isDigit = true)
    (ends : ∀ c ∈ rest.head?, c.isDigit = false) : (ds ++ rest).takeWhile Char.isDigit = ds := by
  rw [List.takeWhile_append_of_pos digits]
  cases rest with
  | nil => simp
  | cons c rest =>
    have other : c.isDigit = false := ends c rfl
    simp [other]

/-- A run of digits is read whole if it fills the width or something else follows it. -/
theorem number?_append {width : Nat} (digits : ∀ c ∈ ds, c.isDigit = true) (nonempty : ds ≠ [])
    (fits : ds.length ≤ width)
    (ends : ds.length = width ∨ ∀ c ∈ rest.head?, c.isDigit = false) :
    number? width (ds ++ rest) = some (ofDigits ds, rest) := by
  have within : ∀ c ∈ (rest.take (width - ds.length)).head?, c.isDigit = false := by
    rcases ends with full | other
    · simp [full]
    · intro c first
      rw [List.head?_take] at first
      split at first
      · cases first
      · exact other c first
  have run : ((ds ++ rest).take width).takeWhile Char.isDigit = ds := by
    rw [List.take_append, List.take_of_length_le fits]
    exact takeWhile_digits digits within
  simp only [number?, run, List.isEmpty_iff, nonempty, if_false, List.drop_left]

theorem number?_padded {width n : Nat} (wide : 0 < width) (small : n < 10 ^ width)
    (rest : List Char) : number? width (padded width n ++ rest) = some (n, rest) := by
  have length := length_padded width n
  rw [number?_append (fun c => isDigit_of_mem_padded) (padded_ne_nil n wide)
    (Nat.le_of_eq length) (.inl length), ofDigits_padded small]

end Digits

end SignInJourney.Text
