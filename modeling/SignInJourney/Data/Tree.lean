/-!
Self-describing values, as a JSON text or a MessagePack record holds them, before anybody asks what
they mean. Names and members are in the order in which they were written, repeated ones included.

`Tree.plain?` keeps what a JSON document can hold, with one entry a name; main statement: a plain
tree has nothing flawed in it (`sound_of_plain?`).
-/

namespace SignInJourney

inductive Tree where
  | null
  | bool (b : Bool)
  /-- An unsigned integer and the number of bits that it was written with. -/
  | uint (n : Nat) (bits : Nat)
  /-- An integer written as a signed one. -/
  | sint (n : Int)
  /-- A number that is no integer; whether it is finite is all that is ever asked. -/
  | real (finite : Bool)
  | text (s : String)
  /-- Binary data. -/
  | bytes (bs : List UInt8)
  /-- A text whose bytes are no UTF-8. -/
  | garbled
  | list (items : List Tree)
  | dict (entries : List (Tree × Tree))
  /-- Application data of a kind unknown here. -/
  | extension
  /-- Well written and without meaning: a text with half a surrogate pair, a number too large, a
  value nested too deep. It can be passed over but not read. -/
  | flawed

namespace Tree

/-- A natural number as documents of this library write it. -/
def nat (n : Nat) : Tree := .uint n 64

/-- A member of a record, under its name. -/
def member (name : String) (value : Tree) : Tree × Tree := (.text name, value)

/-- Binary data as a list: its bytes, each a number. -/
def octets (bs : List UInt8) : List Tree :=
  bs.map fun b => .uint b.toNat 8

/-- A record: its members under their names, in order. -/
def record (members : List (String × Tree)) : Tree :=
  .dict (members.map fun m => member m.1 m.2)

/-- The text that bytes stand for, if they are UTF-8. -/
def utf8? (bs : List UInt8) : Option String :=
  String.fromUTF8? (ByteArray.mk bs.toArray)

mutual

/-- Nothing flawed anywhere inside. -/
def sound : Tree → Bool
  | .flawed => false
  | .list items => soundItems items
  | .dict entries => soundEntries entries
  | _ => true

def soundItems : List Tree → Bool
  | [] => true
  | t :: rest => t.sound && soundItems rest

def soundEntries : List (Tree × Tree) → Bool
  | [] => true
  | (k, v) :: rest => k.sound && v.sound && soundEntries rest

end

/-- Sets the value under a name: in place if the name is there, at the end otherwise. -/
def setName (name : String) (value : Tree) : List (Tree × Tree) → List (Tree × Tree)
  | [] => [member name value]
  | (.text s, v) :: rest =>
    if s = name then member name value :: rest else (.text s, v) :: setName name value rest
  | e :: rest => e :: setName name value rest

/-- The value under a name. -/
def findName? (name : String) : List (Tree × Tree) → Option Tree
  | [] => none
  | (.text s, v) :: rest => if s = name then some v else findName? name rest
  | _ :: rest => findName? name rest

/-- The entries without those under a name. -/
def dropName (name : String) : List (Tree × Tree) → List (Tree × Tree)
  | [] => []
  | (.text s, v) :: rest =>
    if s = name then dropName name rest else (.text s, v) :: dropName name rest
  | e :: rest => e :: dropName name rest

/-- The name that an entry goes by. All but the first of a map may be binary data that is UTF-8. -/
def plainName? (first : Bool) : Tree → Option String
  | .text s => some s
  | .bytes bs => if first then none else utf8? bs
  | _ => none

mutual

/-- The value as a JSON document holds it: no binary data, no application data, nothing garbled or
flawed, names that are text, and of several values under one name the last. A number that is not
finite becomes null. -/
def plain? : Tree → Option Tree
  | .null => some .null
  | .bool b => some (.bool b)
  | .uint n _ => some (.uint n 64)
  | .sint n => some (if 0 ≤ n then .uint n.toNat 64 else .sint n)
  | .real finite => some (if finite then .real true else .null)
  | .text s => some (.text s)
  | .list items => (plainItems? items).map .list
  | .dict entries => (plainEntries? [] entries).map .dict
  | .bytes _ => none
  | .garbled => none
  | .extension => none
  | .flawed => none

def plainItems? : List Tree → Option (List Tree)
  | [] => some []
  | t :: rest =>
    match t.plain?, plainItems? rest with
    | some p, some ps => some (p :: ps)
    | _, _ => none

/-- Adds entries to those that were read before them. -/
def plainEntries? (before : List (Tree × Tree)) : List (Tree × Tree) → Option (List (Tree × Tree))
  | [] => some before
  | (k, v) :: rest =>
    match k.plainName? before.isEmpty, v.plain? with
    | some name, some p => plainEntries? (setName name p before) rest
    | _, _ => none

end

theorem soundEntries_setName {name : String} {value : Tree} (h : value.sound)
    {es : List (Tree × Tree)} (hes : soundEntries es) : soundEntries (setName name value es) := by
  fun_induction setName name value es <;> simp_all [soundEntries, member, sound]

mutual

theorem sound_of_plain? {t p : Tree} (h : t.plain? = some p) : p.sound := by
  match t with
  | .null | .bool _ | .uint _ _ | .text _ =>
    simp only [plain?, Option.some.injEq] at h
    subst h
    rfl
  | .sint n => simp only [plain?, Option.some.injEq] at h; subst h; split <;> rfl
  | .real f => simp only [plain?, Option.some.injEq] at h; subst h; split <;> rfl
  | .bytes _ | .garbled | .extension | .flawed => simp [plain?] at h
  | .list items =>
    obtain ⟨ps, hps, rfl⟩ := Option.map_eq_some_iff.1 (by simpa [plain?] using h)
    exact soundItems_of_plainItems? hps
  | .dict entries =>
    obtain ⟨ps, hps, rfl⟩ := Option.map_eq_some_iff.1 (by simpa [plain?] using h)
    exact soundEntries_of_plainEntries? rfl hps

theorem soundItems_of_plainItems? {ts ps : List Tree} (h : plainItems? ts = some ps) :
    soundItems ps := by
  match ts with
  | [] =>
    simp only [plainItems?, Option.some.injEq] at h
    subst h
    rfl
  | t :: rest =>
    rw [plainItems?] at h
    split at h
    · rename_i hp hps
      cases h
      simp [soundItems, sound_of_plain? hp, soundItems_of_plainItems? hps]
    · simp at h

theorem soundEntries_of_plainEntries? {before es ps : List (Tree × Tree)}
    (hb : soundEntries before) (h : plainEntries? before es = some ps) : soundEntries ps := by
  match es with
  | [] => simp_all [plainEntries?]
  | (k, v) :: rest =>
    rw [plainEntries?] at h
    split at h
    · rename_i hn hp
      exact soundEntries_of_plainEntries? (soundEntries_setName (sound_of_plain? hp) hb) h
    · simp at h

end

end Tree

end SignInJourney
