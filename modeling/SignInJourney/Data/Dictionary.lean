/-!
Values under text keys, each key once, in the order of the keys. Main statements: what is found
after an insertion, a removal or a selection (`get?_insert`, `get?_erase`, `get?_filter`).
-/

namespace SignInJourney

structure Dictionary (α : Type) where
  entries : List (String × α)
  ordered : entries.Pairwise fun a b => a.1 < b.1

namespace Dictionary

variable {α : Type}

def empty : Dictionary α :=
  { entries := [], ordered := .nil }

instance : Inhabited (Dictionary α) := ⟨empty⟩

instance [DecidableEq α] : DecidableEq (Dictionary α) := fun a b =>
  if h : a.entries = b.entries then .isTrue (by cases a; cases b; simp_all)
  else .isFalse fun hab => h (hab ▸ rfl)

theorem ext {a b : Dictionary α} (h : a.entries = b.entries) : a = b := by
  cases a; cases b; simp_all

/-- Puts a value in front of the first greater key, in place of an equal one. -/
def insertEntry (key : String) (value : α) : List (String × α) → List (String × α)
  | [] => [(key, value)]
  | (k, v) :: rest =>
    if key < k then (key, value) :: (k, v) :: rest
    else if k < key then (k, v) :: insertEntry key value rest
    else (key, value) :: rest

theorem mem_insertEntry {key : String} {value : α} {es : List (String × α)} {e : String × α}
    (h : e ∈ insertEntry key value es) : e = (key, value) ∨ e ∈ es := by
  fun_induction insertEntry key value es with
  | case1 => simp_all
  | case2 => simp_all
  | case3 k v rest h1 h2 ih =>
    rcases List.mem_cons.1 h with h | h
    · simp [h]
    · rcases ih h with h | h <;> simp [h]
  | case4 k v rest h1 h2 =>
    rcases List.mem_cons.1 h with h | h <;> simp [h]

theorem eq_of_not_lt {a b : String} (h1 : ¬ a < b) (h2 : ¬ b < a) : a = b :=
  String.le_antisymm (String.not_lt.1 h2) (String.not_lt.1 h1)

theorem ordered_insertEntry {key : String} {value : α} {es : List (String × α)}
    (h : es.Pairwise fun a b => a.1 < b.1) :
    (insertEntry key value es).Pairwise fun a b => a.1 < b.1 := by
  fun_induction insertEntry key value es with
  | case1 => simp
  | case2 k v rest hk =>
    refine List.pairwise_cons.2 ⟨fun e he => ?_, h⟩
    rcases List.mem_cons.1 he with rfl | he
    · exact hk
    · exact String.lt_trans hk ((List.pairwise_cons.1 h).1 e he)
  | case3 k v rest h1 hk ih =>
    have hc := List.pairwise_cons.1 h
    refine List.pairwise_cons.2 ⟨fun e he => ?_, ih hc.2⟩
    rcases mem_insertEntry he with rfl | he
    · exact hk
    · exact hc.1 e he
  | case4 k v rest h1 h2 =>
    have hc := List.pairwise_cons.1 h
    exact List.pairwise_cons.2 ⟨fun e he => eq_of_not_lt h1 h2 ▸ hc.1 e he, hc.2⟩

def insert (d : Dictionary α) (key : String) (value : α) : Dictionary α :=
  { entries := insertEntry key value d.entries, ordered := ordered_insertEntry d.ordered }

/-- The first value under a key. -/
def findValue? (key : String) : List (String × α) → Option α
  | [] => none
  | (k, v) :: rest => if k = key then some v else findValue? key rest

def get? (d : Dictionary α) (key : String) : Option α :=
  findValue? key d.entries

/-- The entries that pass a test. -/
def filter (d : Dictionary α) (keep : String → α → Bool) : Dictionary α :=
  { entries := d.entries.filter fun e => keep e.1 e.2, ordered := d.ordered.filter _ }

def erase (d : Dictionary α) (key : String) : Dictionary α :=
  d.filter fun k _ => k ≠ key

def contains (d : Dictionary α) (key : String) : Bool :=
  (d.get? key).isSome

def size (d : Dictionary α) : Nat :=
  d.entries.length

/-- The dictionary of some entries; of equal keys the last one counts. -/
def ofList (es : List (String × α)) : Dictionary α :=
  es.foldl (fun d e => d.insert e.1 e.2) empty

@[simp] theorem get?_empty (key : String) : (empty : Dictionary α).get? key = none := rfl

theorem findValue?_insertEntry {key k : String} {value : α} {es : List (String × α)} :
    findValue? k (insertEntry key value es) = if key = k then some value else findValue? k es := by
  fun_induction insertEntry key value es with
  | case1 => rfl
  | case2 => rfl
  | case3 k' v rest h1 h2 ih =>
    have hne : k' ≠ key := fun h => String.lt_irrefl key (h ▸ h2)
    by_cases h : key = k
    · subst h
      simp [findValue?, ih, hne]
    · simp [findValue?, ih, h]
  | case4 k' v rest h1 h2 =>
    obtain rfl := eq_of_not_lt h1 h2
    by_cases h : key = k <;> simp [findValue?, h]

theorem get?_insert (d : Dictionary α) (key k : String) (value : α) :
    (d.insert key value).get? k = if key = k then some value else d.get? k :=
  findValue?_insertEntry

theorem findValue?_eq_none_of_lt {k : String} {es : List (String × α)}
    (h : ∀ e ∈ es, k < e.1) : findValue? k es = none := by
  induction es with
  | nil => rfl
  | cons e rest ih =>
    have hne : e.1 ≠ k := fun hk => String.lt_irrefl k (by simpa [hk] using h e (by simp))
    simp only [findValue?, hne, if_false]
    exact ih fun x hx => h x (by simp [hx])

theorem findValue?_filter {keep : String → α → Bool} {k : String} {es : List (String × α)}
    (h : es.Pairwise fun a b => a.1 < b.1) :
    findValue? k (es.filter fun e => keep e.1 e.2) = (findValue? k es).filter (keep k) := by
  induction es with
  | nil => rfl
  | cons e rest ih =>
    have hc := List.pairwise_cons.1 h
    by_cases hk : e.1 = k
    · subst hk
      have hr : findValue? e.1 (rest.filter fun e => keep e.1 e.2) = none :=
        findValue?_eq_none_of_lt fun x hx => hc.1 x (List.mem_filter.1 hx).1
      by_cases hp : keep e.1 e.2 <;> simp [hp, findValue?, hr, Option.filter]
    · by_cases hp : keep e.1 e.2 <;> simp [hp, findValue?, hk, ih hc.2]

theorem get?_filter (d : Dictionary α) (keep : String → α → Bool) (k : String) :
    (d.filter keep).get? k = (d.get? k).filter (keep k) :=
  findValue?_filter d.ordered

theorem get?_erase (d : Dictionary α) (key k : String) :
    (d.erase key).get? k = if k = key then none else d.get? k := by
  rw [erase, get?_filter]
  cases d.get? k <;> by_cases h : k = key <;> simp [Option.filter, h]

end Dictionary

end SignInJourney
