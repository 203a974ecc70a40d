import Mathlib.Data.Set.Card
import SignInJourney.Data.Dictionary

/-!
Dictionaries and their entries: what is found under a key is the entry with that key
(`get?_eq_some_iff`), a dictionary is what its own entries make (`ofList_entries`), and of the
entries of a list under one key it has the last (`get?_ofList`).
-/

namespace SignInJourney

namespace Dictionary

variable {α : Type}

/-- A key greater than all others goes to the end. -/
theorem insertEntry_of_lt {key : String} {value : α} {es : List (String × α)}
    (last : ∀ e ∈ es, e.1 < key) : insertEntry key value es = es ++ [(key, value)] := by
  induction es with
  | nil => rfl
  | cons e rest ih =>
    simp only [List.forall_mem_cons] at last
    have before : ¬ key < e.1 := fun lt => String.lt_irrefl key (String.lt_trans lt last.1)
    simp only [insertEntry, before, last.1, if_true, if_false, ih last.2, List.cons_append]

theorem foldl_insert {es : List (String × α)} {d : Dictionary α}
    (ordered : (d.entries ++ es).Pairwise fun a b => a.1 < b.1) :
    (es.foldl (fun d e => d.insert e.1 e.2) d).entries = d.entries ++ es := by
  induction es generalizing d with
  | nil => simp
  | cons e rest ih =>
    have last : ∀ b ∈ d.entries, b.1 < e.1 := fun b member =>
      (List.pairwise_append.mp ordered).2.2 b member e List.mem_cons_self
    have grown : (d.insert e.1 e.2).entries = d.entries ++ [e] := insertEntry_of_lt last
    rw [List.foldl_cons, ih (by simpa [grown] using ordered), grown]
    simp

theorem ofList_entries (d : Dictionary α) : ofList d.entries = d :=
  ext (foldl_insert (d := empty) d.ordered)

theorem nodup_keys (d : Dictionary α) : (d.entries.map Prod.fst).Nodup := by
  refine List.pairwise_map.mpr (d.ordered.imp fun before same => ?_)
  exact String.lt_irrefl _ (same ▸ before)

theorem mem_of_findValue? {key : String} {value : α} {es : List (String × α)}
    (found : findValue? key es = some value) : (key, value) ∈ es := by
  induction es with
  | nil => simp [findValue?] at found
  | cons e rest ih =>
    by_cases own : e.1 = key
    · have here : e.2 = value := by simpa [findValue?, own] using found
      rw [← own, ← here]
      exact List.mem_cons_self
    · exact List.mem_cons_of_mem e (ih (by simpa [findValue?, own] using found))

theorem findValue?_of_mem {key : String} {value : α} {es : List (String × α)}
    (once : (es.map Prod.fst).Nodup) (member : (key, value) ∈ es) :
    findValue? key es = some value := by
  induction es with
  | nil => simp at member
  | cons e rest ih =>
    simp only [List.map_cons, List.nodup_cons] at once
    rcases List.mem_cons.mp member with rfl | later
    · simp [findValue?]
    · have other : e.1 ≠ key := fun own => once.1 (own ▸ List.mem_map_of_mem later)
      simp only [findValue?, other, if_false, ih once.2 later]

/-- What is found under a key is the entry with that key. -/
theorem get?_eq_some_iff {d : Dictionary α} {key : String} {value : α} :
    d.get? key = some value ↔ (key, value) ∈ d.entries :=
  ⟨mem_of_findValue?, findValue?_of_mem d.nodup_keys⟩

theorem mem_of_mem_foldl_insert {es : List (String × α)} {d : Dictionary α} {e : String × α}
    (member : e ∈ (es.foldl (fun d e => d.insert e.1 e.2) d).entries) : e ∈ d.entries ∨ e ∈ es := by
  induction es generalizing d with
  | nil => exact .inl member
  | cons first rest ih =>
    rcases ih member with old | new
    · rcases mem_insertEntry old with own | older
      · exact .inr (own ▸ List.mem_cons_self)
      · exact .inl older
    · exact .inr (List.mem_cons_of_mem first new)

theorem filter_filter (d : Dictionary α) (p q : String → α → Bool) :
    (d.filter p).filter q = d.filter fun k a => p k a && q k a := by
  refine ext ?_
  simp only [filter, List.filter_filter, Bool.and_comm]

theorem contains_iff {d : Dictionary α} {key : String} :
    d.contains key = true ↔ ∃ value, (key, value) ∈ d.entries := by
  simp only [contains, Option.isSome_iff_exists, get?_eq_some_iff]

theorem setOf_contains (d : Dictionary α) :
    {key | d.contains key = true} = ↑(d.entries.map Prod.fst).toFinset := by
  ext key
  simp [contains_iff]

theorem finite_contains (d : Dictionary α) : {key | d.contains key = true}.Finite := by
  rw [setOf_contains]
  exact Finset.finite_toSet _

/-- A dictionary has as many entries as keys. -/
theorem ncard_contains (d : Dictionary α) : {key | d.contains key = true}.ncard = d.size := by
  rw [setOf_contains, Set.ncard_coe_finset, List.toFinset_card_of_nodup d.nodup_keys,
    List.length_map, size]

/-- What a dictionary made of a list has comes from the list. -/
theorem mem_of_get?_ofList {es : List (String × α)} {key : String} {value : α}
    (found : (ofList es).get? key = some value) : (key, value) ∈ es :=
  (mem_of_mem_foldl_insert (get?_eq_some_iff.mp found)).resolve_left List.not_mem_nil

/-- Of the entries of a list under one key, the last counts. -/
theorem get?_ofList (es : List (String × α)) (key : String) :
    (ofList es).get? key = (es.reverse.find? fun e => e.1 = key).map Prod.snd := by
  induction es using List.reverseRecOn with
  | nil => rfl
  | append_singleton es e ih =>
    have last : (ofList (es ++ [e])).get? key =
        if e.1 = key then some e.2 else (ofList es).get? key := by
      rw [ofList, List.foldl_append, List.foldl_cons, List.foldl_nil, get?_insert, ← ofList]
    rw [last, ih, List.reverse_concat, List.find?_cons]
    by_cases own : e.1 = key <;> simp [own]

end Dictionary

end SignInJourney
