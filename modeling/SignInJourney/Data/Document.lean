import SignInJourney.Data.Tree

/-!
Typed values in trees: how a value is written as one (`ToTree`) and read back (`OfTree`), for texts,
flags, lists, options and closed vocabularies of words. Reading depends on where the tree comes from
in two points only: a MessagePack record may stand a number for the word at that position, and
binary data for the list of its bytes.
-/

namespace SignInJourney

/-- The form that a tree was read from. -/
inductive Encoding where
  | json
  | messagePack
  deriving DecidableEq, Repr

/-- Whether a number may stand for the word or name at its position. -/
def Encoding.byPosition : Encoding → Bool
  | .json => false
  | .messagePack => true

/-- Whether binary data may stand for the list of its bytes. -/
def Encoding.bytesAsList : Encoding → Bool
  | .json => false
  | .messagePack => true

class ToTree (α : Type) where
  toTree : α → Tree

class OfTree (α : Type) where
  /-- The value that a tree from such a form stands for. -/
  ofTree? : Encoding → Tree → Option α

export ToTree (toTree)
export OfTree (ofTree?)

/-- A text; binary data will do if it is UTF-8. -/
def Tree.text? : Tree → Option String
  | .text s => some s
  | .bytes bs => utf8? bs
  | _ => none

instance : ToTree String := ⟨.text⟩

instance : OfTree String := ⟨fun _ => Tree.text?⟩

instance : ToTree Bool := ⟨.bool⟩

instance : OfTree Bool where
  ofTree? _
    | .bool b => some b
    | _ => none

instance : ToTree UInt64 := ⟨fun n => .nat n.toNat⟩

instance : OfTree UInt64 where
  ofTree? _
    | .uint n _ => if n < UInt64.size then some (UInt64.ofNat n) else none
    | .sint n => if 0 ≤ n ∧ n < UInt64.size then some (UInt64.ofNat n.toNat) else none
    | _ => none

instance : OfTree UInt32 where
  ofTree? _
    | .uint n _ => if n < UInt32.size then some (UInt32.ofNat n) else none
    | .sint n => if 0 ≤ n ∧ n < UInt32.size then some (UInt32.ofNat n.toNat) else none
    | _ => none

instance {α : Type} [ToTree α] : ToTree (List α) := ⟨fun xs => .list (xs.map toTree)⟩

/-- A list; a byte in place of an item is the number that it is and stands for no word. -/
instance {α : Type} [OfTree α] : OfTree (List α) where
  ofTree? e
    | .list items => items.mapM (ofTree? e)
    | .bytes bs => if e.bytesAsList then (Tree.octets bs).mapM (ofTree? .json) else none
    | _ => none

/-- An absent value is null. -/
instance {α : Type} [ToTree α] : ToTree (Option α) where
  toTree
    | none => .null
    | some a => toTree a

instance {α : Type} [OfTree α] : OfTree (Option α) where
  ofTree? e
    | .null => some none
    | t => (ofTree? e t).map some

/-- A finite set of values, each with a word of its own. -/
class Vocabulary (α : Type) where
  all : List α
  word : α → String
  find_word : ∀ a : α, all.find? (fun b => word b == word a) = some a

namespace Vocabulary

variable {α : Type} [Vocabulary α]

/-- The value that a word names. -/
def ofWord? (s : String) : Option α :=
  all.find? fun a => word a == s

@[simp] theorem ofWord?_word (a : α) : ofWord? (word a) = some a :=
  find_word a

theorem word_injective {a b : α} (h : word a = word b) : a = b :=
  Option.some.inj ((ofWord?_word a).symm.trans (h ▸ ofWord?_word b))

/-- The value that a tree names: by its word, or where positions count by its position. -/
def ofName? (e : Encoding) : Tree → Option α
  | .text s => ofWord? s
  | .bytes bs => (Tree.utf8? bs).bind ofWord?
  | .uint n _ => if e.byPosition then all[n]? else none
  | _ => none

/-- A variant and what it carries: a map of one entry, or the name alone. -/
def variant? (e : Encoding) : Tree → Option (α × Option Tree)
  | .dict [(k, v)] => (ofName? e k).map fun a => (a, some v)
  | .dict _ => none
  | t => (ofName? e t).map fun a => (a, none)

instance : ToTree α := ⟨fun a => .text (word a)⟩

/-- A word, or the word with null. -/
instance : OfTree α where
  ofTree? e t :=
    match variant? e t with
    | some (a, none) => some a
    | some (a, some .null) => some a
    | _ => none

end Vocabulary

end SignInJourney
