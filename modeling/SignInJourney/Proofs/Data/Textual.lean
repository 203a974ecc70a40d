import SignInJourney.Proofs.MessagePack.RoundTrip

/-!
Textual trees: nulls, flags and texts, in lists and in records with each name once. Such a tree is
sound, is what a JSON document holds of it (`Textual.plain?_eq`), and is read back from MessagePack
(`Textual.reads`).
-/

namespace SignInJourney.Tree

/-- The entries of a record with these members. -/
def named (ms : List (String × Tree)) : List (Tree × Tree) :=
  ms.map fun m => member m.1 m.2

theorem record_eq (ms : List (String × Tree)) : record ms = .dict (named ms) := rfl

@[simp] theorem named_nil : named [] = [] := rfl

@[simp] theorem named_cons (m : String × Tree) (ms : List (String × Tree)) :
    named (m :: ms) = (.text m.1, m.2) :: named ms := rfl

/-- The members of a record. -/
def members : Tree → List (String × Tree)
  | .dict entries => entries.filterMap fun e =>
    match e.1 with
    | .text name => some (name, e.2)
    | _ => none
  | _ => []

@[simp] theorem members_record (ms : List (String × Tree)) : (record ms).members = ms := by
  rw [record_eq, members]
  induction ms with
  | nil => rfl
  | cons m rest ih => rw [named_cons, List.filterMap_cons, ih]

theorem lookup_cons (name : String) (m : String × Tree) (ms : List (String × Tree)) :
    (m :: ms).lookup name = if m.1 = name then some m.2 else ms.lookup name := by
  obtain ⟨n, t⟩ := m
  by_cases same : n = name
  · subst same
    simp
  · have other : (name == n) = false := beq_false_of_ne (Ne.symm same)
    simp [List.lookup_cons, other, same]

theorem findName?_named (name : String) (ms : List (String × Tree)) :
    findName? name (named ms) = ms.lookup name := by
  induction ms with
  | nil => rfl
  | cons m rest ih => rw [named_cons, findName?, ih, lookup_cons]

/-- A new name goes to the end. -/
theorem setName_named {name : String} {ms : List (String × Tree)} (value : Tree)
    (new : name ∉ ms.map Prod.fst) :
    setName name value (named ms) = named (ms ++ [(name, value)]) := by
  induction ms with
  | nil => rfl
  | cons m rest ih =>
    simp only [List.map_cons, List.mem_cons, not_or] at new
    have other : m.1 ≠ name := Ne.symm new.1
    simp [setName, other, ih new.2]

/-- Nothing but nulls, flags and texts, in lists and in records with each name once, at most so many
inside each other. -/
inductive Textual : Nat → Tree → Prop
  | null {levels : Nat} : Textual levels .null
  | bool {levels : Nat} (b : Bool) : Textual levels (.bool b)
  | text {levels : Nat} (s : String) : Textual levels (.text s)
  | list {levels : Nat} {items : List Tree} (each : ∀ t ∈ items, Textual levels t) :
    Textual (levels + 1) (.list items)
  | record {levels : Nat} {ms : List (String × Tree)} (once : (ms.map Prod.fst).Nodup)
      (each : ∀ m ∈ ms, Textual levels m.2) : Textual (levels + 1) (.record ms)

namespace Textual

variable {levels : Nat} {t : Tree}

theorem mono {more : Nat} (textual : Textual levels t) (le : levels ≤ more) : Textual more t := by
  induction textual generalizing more with
  | null => exact .null
  | bool b => exact .bool b
  | text s => exact .text s
  | list each ih =>
    obtain ⟨more, rfl⟩ : ∃ n, more = n + 1 := ⟨more - 1, by omega⟩
    exact .list fun t member => ih t member (by omega)
  | record once each ih =>
    obtain ⟨more, rfl⟩ : ∃ n, more = n + 1 := ⟨more - 1, by omega⟩
    exact .record once fun m member => ih m member (by omega)

theorem soundItems_of_forall {items : List Tree} (each : ∀ t ∈ items, t.sound) :
    soundItems items := by
  induction items with
  | nil => rfl
  | cons t rest ih =>
    simp only [List.forall_mem_cons] at each
    simp only [soundItems, each.1, ih each.2, Bool.and_self]

theorem soundEntries_named {ms : List (String × Tree)} (each : ∀ m ∈ ms, m.2.sound) :
    soundEntries (named ms) := by
  induction ms with
  | nil => rfl
  | cons m rest ih =>
    simp only [List.forall_mem_cons] at each
    simp only [named_cons, soundEntries, Tree.sound, each.1, ih each.2, Bool.and_self]

theorem sound (textual : Textual levels t) : t.sound := by
  induction textual with
  | null => rfl
  | bool => rfl
  | text => rfl
  | list _ ih => exact soundItems_of_forall ih
  | record _ _ ih => exact soundEntries_named ih

theorem plainItems?_of_forall {items : List Tree} (each : ∀ t ∈ items, t.plain? = some t) :
    plainItems? items = some items := by
  induction items with
  | nil => rfl
  | cons t rest ih =>
    simp only [List.forall_mem_cons] at each
    simp only [plainItems?, each.1, ih each.2]

theorem plainEntries?_named {before ms : List (String × Tree)}
    (once : ((before ++ ms).map Prod.fst).Nodup) (each : ∀ m ∈ ms, m.2.plain? = some m.2) :
    plainEntries? (named before) (named ms) = some (named (before ++ ms)) := by
  induction ms generalizing before with
  | nil => simp [plainEntries?]
  | cons m rest ih =>
    simp only [List.forall_mem_cons] at each
    have new : m.1 ∉ before.map Prod.fst := by
      intro old
      simp only [List.map_append, List.map_cons, List.nodup_append, List.mem_cons] at once
      exact once.2.2 m.1 old m.1 (.inl rfl) rfl
    have grown : before ++ m :: rest = before ++ [m] ++ rest := by simp
    rw [grown] at once ⊢
    have after := ih once each.2
    rw [← setName_named m.2 new] at after
    simpa [plainEntries?, plainName?, each.1] using after

theorem nodup_members (textual : Textual levels t) : (t.members.map Prod.fst).Nodup := by
  cases textual with
  | record once _ => rwa [members_record]
  | _ => exact List.nodup_nil

theorem of_members (textual : Textual (levels + 1) t) : ∀ m ∈ t.members, Textual levels m.2 := by
  cases textual with
  | record _ each => rwa [members_record]
  | _ => nofun

/-- A record stays textual with some of its members only. -/
theorem filter (keep : String × Tree → Bool) (textual : Textual (levels + 1) t) :
    Textual (levels + 1) (.record (t.members.filter keep)) :=
  .record (textual.nodup_members.sublist (List.filter_sublist.map Prod.fst))
    fun m member => textual.of_members m (List.mem_filter.mp member).1

/-- A textual tree is what a JSON document holds of it. -/
theorem plain?_eq (textual : Textual levels t) : t.plain? = some t := by
  induction textual with
  | null => rfl
  | bool => rfl
  | text => rfl
  | list _ ih => rw [plain?, plainItems?_of_forall ih, Option.map_some]
  | @record _ ms once _ ih =>
    have entries : plainEntries? [] (named ms) = some (named ms) :=
      @plainEntries?_named [] ms once ih
    rw [record_eq, plain?, entries, Option.map_some]

/-- A textual tree of lengths that MessagePack has is read back from it. -/
theorem reads (textual : Textual levels t) (fits : MessagePack.fits t) :
    MessagePack.Reads levels t := by
  induction textual with
  | null => exact MessagePack.reads_null
  | bool b => exact MessagePack.reads_bool b
  | text s => exact MessagePack.reads_text (by simpa [MessagePack.fits] using fits)
  | list _ ih =>
    obtain ⟨short, each⟩ := MessagePack.fits_list.mp fits
    exact MessagePack.reads_list short fun t member => ih t member (each t member)
  | @record _ ms _ _ ih =>
    obtain ⟨short, each⟩ := MessagePack.fits_record.mp fits
    refine MessagePack.reads_dict (by simpa using short) ?_
    rintro e entry
    obtain ⟨m, member, rfl⟩ := List.mem_map.mp entry
    obtain ⟨name, value⟩ := each m member
    exact ⟨MessagePack.reads_text name, ih m member value⟩

end Textual

end SignInJourney.Tree
