import Mathlib.Algebra.Group.Nat.Defs
import SignInJourney.MessagePack.Reader
import SignInJourney.MessagePack.Writer

/-!
What is written in MessagePack is read back, whatever bytes follow it. `Reads` says so of one tree:
heads are read first (`head?_textHead`, `head?_listHead`, `head?_dictHead`), and a list or a map is
read if its parts are. A length has at most 32 bits, which `fits` asks of every length in a tree.
-/

namespace SignInJourney

namespace Tree

theorem utf8?_utf8 (s : String) : utf8? (MessagePack.utf8 s) = some s := by
  simp only [utf8?, MessagePack.utf8, Array.toArray_toList, String.fromUTF8?]
  exact dif_pos s.isValidUTF8

end Tree

namespace MessagePack

mutual

/-- Every text, list and map inside has a length that 32 bits hold, which is as long as MessagePack
has them. -/
def fits : Tree → Bool
  | .text s => s.utf8ByteSize < UInt32.size
  | .list items => items.length < UInt32.size && fitsItems items
  | .dict entries => entries.length < UInt32.size && fitsEntries entries
  | _ => true

def fitsItems : List Tree → Bool
  | [] => true
  | t :: rest => fits t && fitsItems rest

def fitsEntries : List (Tree × Tree) → Bool
  | [] => true
  | (k, v) :: rest => fits k && fits v && fitsEntries rest

end

theorem fitsItems_iff {items : List Tree} : fitsItems items ↔ ∀ t ∈ items, fits t := by
  induction items with
  | nil => simp [fitsItems]
  | cons t rest ih => simp [fitsItems, ih]

theorem fitsEntries_iff {entries : List (Tree × Tree)} :
    fitsEntries entries ↔ ∀ e ∈ entries, fits e.1 ∧ fits e.2 := by
  induction entries with
  | nil => simp [fitsEntries]
  | cons e rest ih => simp [fitsEntries, ih]

theorem fits_list {items : List Tree} :
    fits (.list items) ↔ items.length < UInt32.size ∧ ∀ t ∈ items, fits t := by
  simp [fits, ← fitsItems_iff]

theorem fits_dict {entries : List (Tree × Tree)} :
    fits (.dict entries) ↔
      entries.length < UInt32.size ∧ ∀ e ∈ entries, fits e.1 ∧ fits e.2 := by
  rw [← fitsEntries_iff]
  simp [fits]

theorem fits_record {ms : List (String × Tree)} :
    fits (.record ms) ↔
      ms.length < UInt32.size ∧ ∀ m ∈ ms, m.1.utf8ByteSize < UInt32.size ∧ fits m.2 := by
  rw [Tree.record, fits_dict, List.length_map, List.forall_mem_map]
  simp only [Tree.member, fits, decide_eq_true_eq]

theorem fits_entry {name : String} {t : Tree} :
    fits (.record [(name, t)]) ↔ name.utf8ByteSize < UInt32.size ∧ fits t := by
  have one : [(name, t)].length < UInt32.size := show 1 < UInt32.size by decide
  rw [fits_record, List.forall_mem_singleton]
  exact ⟨fun fits => fits.2, fun fits => ⟨one, fits⟩⟩

/-! ### Bytes and numbers -/

theorem take?_append (taken rest : List UInt8) :
    take? taken.length (taken ++ rest) = some (taken, rest) := by
  induction taken with
  | nil => rfl
  | cons b taken ih => simp [take?, ih]

theorem length_bigEndian (n m : Nat) : (bigEndian n m).length = n := by
  induction n generalizing m with
  | zero => rfl
  | succ n ih => simp [bigEndian, ih]

theorem foldl_bigEndian {n m : Nat} (small : m < 256 ^ n) :
    (bigEndian n m).foldl (fun m b => 256 * m + b.toNat) 0 = m := by
  induction n generalizing m with
  | zero =>
    rw [Nat.pow_zero] at small
    have none : m = 0 := by omega
    rw [none]
    rfl
  | succ n ih =>
    have high : m / 256 < 256 ^ n := by
      rw [Nat.pow_succ] at small
      exact Nat.div_lt_of_lt_mul (by omega)
    have low : (UInt8.ofNat (m % 256)).toNat = m % 256 := by simp
    rw [bigEndian, List.foldl_append, ih high]
    simp only [List.foldl_cons, List.foldl_nil, low]
    omega

theorem nat?_bigEndian {n m : Nat} (small : m < 256 ^ n) (rest : List UInt8) :
    nat? n (bigEndian n m ++ rest) = some (m, rest) := by
  have taken := take?_append (bigEndian n m) rest
  rw [length_bigEndian] at taken
  simp only [nat?, taken, Option.map_some, foldl_bigEndian small]

theorem counted?_bigEndian {n m : Nat} (small : m < 256 ^ n) (rest : List UInt8)
    (body : Nat → List UInt8 → Option (Head × List UInt8)) :
    counted? n (bigEndian n m ++ rest) body = body m rest := by
  simp only [counted?, nat?_bigEndian small, Option.bind_some]

theorem toNat_ofNat {n : Nat} (small : n < 256) : (UInt8.ofNat n).toNat = n :=
  UInt8.toNat_ofNat_of_lt' small

/-! ### Heads -/

theorem length_utf8 (s : String) : (utf8 s).length = s.utf8ByteSize := by
  simp [utf8]

theorem text?_utf8 (s : String) (rest : List UInt8) :
    text? (utf8 s).length (utf8 s ++ rest) = some (.leaf (.text s), rest) := by
  simp only [text?, take?_append, Option.map_some, Tree.utf8?_utf8]

theorem head?_textHead {n : Nat} (small : n < UInt32.size) (rest : List UInt8) :
    head? (textHead n ++ rest) = text? n rest := by
  unfold textHead
  split
  · have code : (UInt8.ofNat (0xA0 + n)).toNat = 0xA0 + n := toNat_ofNat (by omega)
    simp only [List.singleton_append, head?, code]
    rw [if_neg (by omega), if_neg (by omega), if_neg (by omega), if_pos (by omega)]
    rw [Nat.add_sub_cancel_left]
  · split
    · exact counted?_bigEndian (n := 1) (by assumption) rest text?
    · split
      · exact counted?_bigEndian (n := 2) (by assumption) rest text?
      · exact counted?_bigEndian (n := 4) small rest text?

theorem head?_listHead {n : Nat} (small : n < UInt32.size) (rest : List UInt8) :
    head? (listHead n ++ rest) = some (.list n, rest) := by
  unfold listHead
  split
  · have code : (UInt8.ofNat (0x90 + n)).toNat = 0x90 + n := toNat_ofNat (by omega)
    simp only [List.singleton_append, head?, code]
    rw [if_neg (by omega), if_neg (by omega), if_pos (by omega), Nat.add_sub_cancel_left]
  · split
    · exact counted?_bigEndian (n := 2) (by assumption) rest fun count rest =>
        some (.list count, rest)
    · exact counted?_bigEndian (n := 4) small rest fun count rest => some (.list count, rest)

theorem head?_dictHead {n : Nat} (small : n < UInt32.size) (rest : List UInt8) :
    head? (dictHead n ++ rest) = some (.dict n, rest) := by
  unfold dictHead
  split
  · have code : (UInt8.ofNat (0x80 + n)).toNat = 0x80 + n := toNat_ofNat (by omega)
    simp only [List.singleton_append, head?, code]
    rw [if_neg (by omega), if_pos (by omega), Nat.add_sub_cancel_left]
  · split
    · exact counted?_bigEndian (n := 2) (by assumption) rest fun count rest =>
        some (.dict count, rest)
    · exact counted?_bigEndian (n := 4) small rest fun count rest => some (.dict count, rest)

/-! ### Values -/

/-- The tree is read back from what is written of it, within so many levels. -/
def Reads (levels : Nat) (t : Tree) : Prop :=
  ∀ rest, value? levels (write t ++ rest) = some (t, rest)

section Reads

variable {levels : Nat}

theorem value?_of_leaf {t : Tree} {bytes rest : List UInt8}
    (leaf : head? bytes = some (.leaf t, rest)) : value? levels bytes = some (t, rest) := by
  cases levels <;> simp only [value?, leaf]

theorem reads_null : Reads levels .null :=
  fun _ => value?_of_leaf rfl

theorem reads_bool (b : Bool) : Reads levels (.bool b) := by
  intro rest
  apply value?_of_leaf
  cases b <;> rfl

/-- A number below 128 is its own head. -/
theorem reads_small {n : Nat} (small : n < 0x80) : Reads levels (.uint n 8) := by
  intro rest
  have code : (UInt8.ofNat n).toNat = n := toNat_ofNat (by omega)
  apply value?_of_leaf
  simp only [write, natBytes, if_pos small, List.singleton_append, head?, code]

theorem reads_text {s : String} (short : s.utf8ByteSize < UInt32.size) :
    Reads levels (.text s) := by
  intro rest
  apply value?_of_leaf
  rw [write, List.append_assoc, head?_textHead (by rwa [length_utf8]), text?_utf8]

theorem many?_writeItems {items : List Tree} (reads : ∀ t ∈ items, Reads levels t)
    (rest : List UInt8) :
    many? (value? levels) items.length (writeItems items ++ rest) = some (items, rest) := by
  induction items with
  | nil => rfl
  | cons t items ih =>
    have others := ih fun u member => reads u (List.mem_cons_of_mem t member)
    have first := reads t (List.mem_cons_self) (writeItems items ++ rest)
    simp only [writeItems, List.append_assoc, List.length_cons, many?, first, others,
      Option.map_some]

theorem both?_write {k v : Tree} (key : Reads levels k) (value : Reads levels v)
    (rest : List UInt8) :
    both? (value? levels) (write k ++ write v ++ rest) = some ((k, v), rest) := by
  rw [List.append_assoc]
  simp only [both?, key (write v ++ rest), value rest, Option.map_some]

theorem many?_writeEntries {entries : List (Tree × Tree)}
    (reads : ∀ e ∈ entries, Reads levels e.1 ∧ Reads levels e.2) (rest : List UInt8) :
    many? (both? (value? levels)) entries.length (writeEntries entries ++ rest) =
      some (entries, rest) := by
  induction entries with
  | nil => rfl
  | cons e entries ih =>
    have others := ih fun u member => reads u (List.mem_cons_of_mem e member)
    obtain ⟨key, value⟩ := reads e List.mem_cons_self
    have first := both?_write key value (writeEntries entries ++ rest)
    rw [List.append_assoc] at first
    simp only [writeEntries, List.append_assoc, List.length_cons, many?, first, others,
      Option.map_some]

theorem reads_list {items : List Tree} (short : items.length < UInt32.size)
    (reads : ∀ t ∈ items, Reads levels t) : Reads (levels + 1) (.list items) := by
  intro rest
  rw [write, List.append_assoc, value?, head?_listHead short]
  simp only [many?_writeItems reads, Option.map_some]

theorem reads_dict {entries : List (Tree × Tree)} (short : entries.length < UInt32.size)
    (reads : ∀ e ∈ entries, Reads levels e.1 ∧ Reads levels e.2) :
    Reads (levels + 1) (.dict entries) := by
  intro rest
  rw [write, List.append_assoc, value?, head?_dictHead short]
  simp only [many?_writeEntries reads, Option.map_some]

/-- What follows a value is of no concern. -/
theorem Reads.read?_append {t : Tree} (reads : Reads maxLevels t) (rest : List UInt8) :
    read? (write t ++ rest) = some t := by
  rw [read?, reads rest, Option.map_some]

end Reads

end MessagePack

end SignInJourney
