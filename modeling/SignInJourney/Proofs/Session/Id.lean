import SignInJourney.Proofs.Text.Hex
import SignInJourney.Session.Id

/-!
Session ids and their texts. A text names an id exactly if it is the text of the id in some case
(`ofHex?_eq_some_iff`), and every thirty-two digits name one (`exists_ofHex?_iff`); so the text of
an id names that id and no other (`ofHex?_hex`, `hex_injective`).
-/

namespace SignInJourney.SessionId

variable {text : String} {id : SessionId}

theorem ofHex?_eq_some : ofHex? text = some id ↔ Hex.decode? text = some id.bytes := by
  rcases id with ⟨bytes, length⟩
  unfold ofHex?
  constructor
  · intro named
    split at named
    · rename_i read decoded
      split at named
      · cases named
        exact decoded
      · cases named
    · cases named
  · intro decoded
    simp only [decoded, length, dite_true]

theorem ofHex?_eq_some_iff : ofHex? text = some id ↔ id.hex = text.toLower := by
  rw [ofHex?_eq_some, Hex.decode?_eq_some_iff, hex]

theorem ofHex?_hex (id : SessionId) : ofHex? id.hex = some id := by
  rw [ofHex?_eq_some, hex, Hex.decode?_encode]

theorem exists_ofHex?_iff :
    (∃ id, ofHex? text = some id) ↔ text.length = 32 ∧ ∀ c ∈ text.toList, Hex.IsDigit c := by
  rw [← String.length_toList, ← Hex.exists_bytes?_iff (n := 16)]
  constructor
  · rintro ⟨id, named⟩
    exact ⟨id.bytes, ofHex?_eq_some.mp named, id.length_eq⟩
  · rintro ⟨bytes, read, length⟩
    exact ⟨⟨bytes, length⟩, ofHex?_eq_some.mpr read⟩

-- The second text has thirty-two bytes, but one of its characters takes two of them.
example :
    (ofHex? "DeadBeefDeadBeefDeadBeefDeadBeef").map hex = some "deadbeefdeadbeefdeadbeefdeadbeef" ∧
      ofHex? "éadbeefdeadbeefdeadbeefdeadbeef" = none := by
  decide

theorem hex_injective {a b : SessionId} (h : a.hex = b.hex) : a = b := by
  have same := congrArg ofHex? h
  rw [ofHex?_hex, ofHex?_hex] at same
  exact Option.some.inj same

@[simp] theorem hex_inj {a b : SessionId} : a.hex = b.hex ↔ a = b :=
  ⟨hex_injective, fun h => h ▸ rfl⟩

end SignInJourney.SessionId
