import SignInJourney.Data.Members
import SignInJourney.Proofs.Data.Textual

/-!
Records read back. `Faithful` says that values of a type are read back from their trees in either
form. `Gives` compares the members given for a record with those that are written for it: their
order does not matter, and those that hold null may be missing. Each way to read a member then finds
what was written (`Gives.required`, `Gives.withDefault`, `Gives.optional`).
-/

namespace SignInJourney

/-- Values of the type are read back from what is written of them, in either form. -/
class Faithful (α : Type) [ToTree α] [OfTree α] : Prop where
  ofTree?_toTree (e : Encoding) (a : α) : ofTree? e (toTree a) = some a
  /-- Null is kept for what is absent. -/
  toTree_ne_null (a : α) : toTree a ≠ .null

export Faithful (ofTree?_toTree toTree_ne_null)

section Values

variable {α : Type}

instance : Faithful String where
  ofTree?_toTree _ _ := rfl
  toTree_ne_null _ := nofun

instance : Faithful Bool where
  ofTree?_toTree _ _ := rfl
  toTree_ne_null _ := nofun

theorem ofTree?_of_ne_null [OfTree α] {e : Encoding} {t : Tree} (held : t ≠ .null) :
    (ofTree? e t : Option (Option α)) = (ofTree? e t : Option α).map some := by
  cases t with
  | null => exact absurd rfl held
  | _ => rfl

variable [ToTree α] [OfTree α]

theorem ofTree?_toTree_option [Faithful α] (e : Encoding) (a? : Option α) :
    ofTree? e (toTree a?) = some a? := by
  cases a? with
  | none => rfl
  | some a =>
    have value : (ofTree? e (toTree a) : Option (Option α)) = some (some a) := by
      rw [ofTree?_of_ne_null (toTree_ne_null a), ofTree?_toTree, Option.map_some]
    exact value

theorem mapM_toTree [Faithful α] (e : Encoding) (as : List α) :
    (as.map toTree).mapM (ofTree? e) = some as := by
  induction as with
  | nil => rfl
  | cons a rest ih =>
    simp only [List.map_cons, List.mapM_cons, ofTree?_toTree, ih]
    rfl

instance [Faithful α] : Faithful (List α) where
  ofTree?_toTree e as := mapM_toTree e as
  toTree_ne_null _ := nofun

end Values

/-- A word is read back, and stands for nothing else. -/
theorem Vocabulary.variant?_word {α : Type} [Vocabulary α] (e : Encoding) (a : α) :
    variant? e (.text (word a)) = some (a, none) := by
  simp only [variant?, ofName?, ofWord?_word, Option.map_some]

theorem Vocabulary.variant?_record {α : Type} [Vocabulary α] (e : Encoding) (a : α) (t : Tree) :
    variant? e (.record [(word a, t)]) = some (a, some t) := by
  simp only [variant?, Tree.record, List.map_cons, List.map_nil, Tree.member, ofName?,
    ofWord?_word, Option.map_some]

instance {α : Type} [Vocabulary α] : Faithful α where
  ofTree?_toTree e a := by
    simp only [toTree, ofTree?, Vocabulary.variant?_word]
  toTree_ne_null _ := nofun

theorem lookup_eq_none_iff {name : String} {ms : List (String × Tree)} :
    ms.lookup name = none ↔ name ∉ ms.map Prod.fst := by
  simp only [List.lookup_eq_none_iff, bne_iff_ne, List.mem_map, not_exists, not_and]
  exact ⟨fun none m member same => none m member same.symm,
    fun missing m member same => missing m member same.symm⟩

theorem mem_of_lookup {name : String} {t : Tree} {ms : List (String × Tree)}
    (there : ms.lookup name = some t) : (name, t) ∈ ms := by
  obtain ⟨before, after, rfl, -⟩ := List.lookup_eq_some_iff.mp there
  exact List.mem_append_right before List.mem_cons_self

theorem lookup_filter {ms : List (String × Tree)} (once : (ms.map Prod.fst).Nodup)
    (keep : String × Tree → Bool) (name : String) :
    (ms.filter keep).lookup name = (ms.lookup name).filter fun t => keep (name, t) := by
  induction ms with
  | nil => rfl
  | cons m rest ih =>
    simp only [List.map_cons, List.nodup_cons] at once
    have others := ih once.2
    rw [Tree.lookup_cons name m rest]
    by_cases same : m.1 = name
    · rw [← same, lookup_eq_none_iff.mpr once.1] at others
      subst same
      by_cases kept : keep m = true
      · simp [kept, Tree.lookup_cons, Option.filter]
      · rw [List.filter_cons_of_neg kept, others]
        simp [kept, Option.filter]
    · rw [if_neg same, ← others]
      by_cases kept : keep m = true <;> simp [kept, Tree.lookup_cons, same]

/-- Members are found after a selection, unless what was passed over may be null. -/
theorem lookup_filter_of_spare {ms : List (String × Tree)} (once : (ms.map Prod.fst).Nodup)
    {keep : String × Tree → Bool} {name : String}
    (spare : ∀ t, (name, t) ∈ ms → keep (name, t) = false → t = .null) :
    (ms.filter keep).lookup name = ms.lookup name ∨
      (ms.filter keep).lookup name = none ∧ ms.lookup name = some .null := by
  rw [lookup_filter once]
  cases there : ms.lookup name with
  | none => exact .inl rfl
  | some t =>
    cases kept : keep (name, t) with
    | true => exact .inl (by simp [kept])
    | false =>
      have null : t = .null := spare t (mem_of_lookup there) kept
      exact .inr ⟨by simp [kept], by rw [null]⟩

/-- Members with a value for a name, which is added where it has none. -/
def settle (name : String) (value : Tree) (ms : List (String × Tree)) : List (String × Tree) :=
  if (ms.lookup name).isSome then ms else ms ++ [(name, value)]

theorem settle_of_lookup {name : String} {value t : Tree} {ms : List (String × Tree)}
    (there : ms.lookup name = some t) : settle name value ms = ms := by
  rw [settle, there, Option.isSome_some, if_pos rfl]

theorem settle_of_missing {name : String} {value : Tree} {ms : List (String × Tree)}
    (missing : ms.lookup name = none) : settle name value ms = ms ++ [(name, value)] := by
  rw [settle, missing, Option.isSome_none, if_neg Bool.false_ne_true]

/-- Members given for a record that has the members `full`: each once, and none but those. One that
holds null may be missing. -/
structure Gives (given full : List (String × Tree)) : Prop where
  once : (given.map Prod.fst).Nodup
  known : ∀ m ∈ given, m.1 ∈ full.map Prod.fst
  found : ∀ name, given.lookup name = full.lookup name ∨
    given.lookup name = none ∧ full.lookup name = some .null

namespace Members

theorem collect?_named {e : Encoding} {names : List String} {o : Openness}
    {ms : List (String × Tree)} (once : (ms.map Prod.fst).Nodup)
    (known : ∀ m ∈ ms, m.1 ∈ names) : collect? e names o (Tree.named ms) = some ms := by
  induction ms with
  | nil => rfl
  | cons m rest ih =>
    simp only [List.map_cons, List.nodup_cons] at once
    simp only [List.forall_mem_cons] at known
    have fresh : rest.lookup m.1 = none := lookup_eq_none_iff.mpr once.1
    simp [collect?, name?, known.1, ih once.2 known.2, fresh]

theorem ofTree?_record {e : Encoding} {names : List String} {o : Openness}
    {ms : List (String × Tree)} (once : (ms.map Prod.fst).Nodup)
    (known : ∀ m ∈ ms, m.1 ∈ names) :
    ofTree? e names o (.record ms) = some { encoding := e, positional := false, given := ms } := by
  rw [Tree.record_eq, ofTree?, collect?_named once known, Option.map_some]

end Members

namespace Gives

variable {given full : List (String × Tree)}

theorem refl (once : (full.map Prod.fst).Nodup) : Gives full full :=
  ⟨once, fun _ member => List.mem_map_of_mem member, fun _ => .inl rfl⟩

/-- Members that hold null may be left out. -/
theorem filter {keep : String × Tree → Bool} (once : (full.map Prod.fst).Nodup)
    (spare : ∀ m ∈ full, keep m = false → m.2 = .null) : Gives (full.filter keep) full where
  once := once.sublist (List.filter_sublist.map Prod.fst)
  known _ member := List.mem_map_of_mem (List.mem_filter.mp member).1
  found _ := lookup_filter_of_spare once fun _ member => spare _ member

/-- One more member may be left out if it is settled at the value that it had. -/
theorem settle {keep : String × Tree → Bool} {name : String} {value t : Tree}
    (once : (full.map Prod.fst).Nodup) (there : full.lookup name = some t)
    (back : keep (name, t) = false → value = t)
    (spare : ∀ m ∈ full, keep m = false → m.2 = .null ∨ m.1 = name) :
    Gives (settle name value (full.filter keep)) full := by
  have once' : ((full.filter keep).map Prod.fst).Nodup :=
    once.sublist (List.filter_sublist.map Prod.fst)
  have known : ∀ m ∈ full.filter keep, m.1 ∈ full.map Prod.fst :=
    fun _ member => List.mem_map_of_mem (List.mem_filter.mp member).1
  have others : ∀ other ≠ name, (full.filter keep).lookup other = full.lookup other ∨
      (full.filter keep).lookup other = none ∧ full.lookup other = some .null :=
    fun other different => lookup_filter_of_spare once fun t member left =>
      (spare _ member left).resolve_right different
  -- The member is there and stays, or it was left out and comes back at the end.
  cases kept : (full.filter keep).lookup name with
  | some u =>
    have same : (full.filter keep).lookup name = full.lookup name := by
      rw [lookup_filter once, there] at kept
      rw [lookup_filter once, there, kept, (Option.filter_eq_some_iff.mp kept).1]
    rw [settle_of_lookup kept]
    refine ⟨once', known, fun other => ?_⟩
    by_cases own : other = name
    · exact .inl (own ▸ same)
    · exact others other own
  | none =>
    have new := lookup_eq_none_iff.mp kept
    have settled : value = t := by
      rw [lookup_filter once, there] at kept
      exact back (by simpa [Option.filter] using kept)
    rw [settle_of_missing kept]
    refine ⟨?_, ?_, fun other => ?_⟩
    · rw [List.map_append, List.nodup_append]
      refine ⟨once', by simp, fun other member last single same => ?_⟩
      have own : other = name := same.trans (List.mem_singleton.mp single)
      exact new (own ▸ member)
    · simp only [List.forall_mem_append, List.forall_mem_singleton]
      exact ⟨known, List.mem_map_of_mem (mem_of_lookup there)⟩
    · rw [List.lookup_append]
      by_cases own : other = name
      · rw [own, kept, there, settled]
        simp
      · simpa [Tree.lookup_cons, Ne.symm own] using others other own

theorem ofTree?_record (gives : Gives given full) {e : Encoding} {o : Openness}
    {names : List String} (same : full.map Prod.fst = names) :
    Members.ofTree? e names o (.record given) =
      some { encoding := e, positional := false, given := given } :=
  Members.ofTree?_record gives.once (same ▸ gives.known)

variable {α : Type} [ToTree α] [OfTree α] [Faithful α]

theorem lookup (gives : Gives given full) {name : String} {t : Tree}
    (there : full.lookup name = some t) (held : t ≠ .null) : given.lookup name = some t := by
  rcases gives.found name with same | ⟨-, null⟩
  · rw [same, there]
  · rw [there, Option.some.injEq] at null
    exact absurd null held

variable {e : Encoding} {positional : Bool}

theorem required (gives : Gives given full) (name : String) (a : α)
    (there : full.lookup name = some (toTree a)) :
    (Members.mk e positional given).required name = some a := by
  rw [Members.required, gives.lookup there (toTree_ne_null a), Option.bind_some, ofTree?_toTree]

theorem withDefault (gives : Gives given full) (name : String) (a value : α)
    (there : full.lookup name = some (toTree a)) :
    (Members.mk e positional given).withDefault name value = some a := by
  rw [Members.withDefault, gives.lookup there (toTree_ne_null a)]
  exact ofTree?_toTree e a

/-- A member that is absent by default may be written as null or be left out. -/
theorem optional (gives : Gives given full) (name : String) (a? : Option α)
    (there : full.lookup name = some (toTree a?)) :
    (Members.mk e positional given).withDefault name none = some a? := by
  cases a? with
  | none =>
    rcases gives.found name with same | ⟨missing, -⟩
    · rw [Members.withDefault, same, there]
      exact ofTree?_toTree_option e none
    · rw [Members.withDefault, missing]
  | some a =>
    rw [Members.withDefault, gives.lookup there (toTree_ne_null a)]
    exact ofTree?_toTree_option e (some a)

end Gives

end SignInJourney
