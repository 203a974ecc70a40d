import SignInJourney.Proofs.Session.Id
import SignInJourney.Store.Basic

/-!
A store as `Store.get` shows it: what is found after a session is put (`get_put`), and that a look
at an id changes nothing that is found (`get_touch`).
-/

namespace SignInJourney.Store

theorem recorded_eq_some {records : Dictionary (List UInt8)} {id : SessionId} {s : Session} :
    recorded records id = .ok (some s) ↔
      ∃ bytes, records.get? id.hex = some bytes ∧ Record.decode bytes = .ok s := by
  unfold recorded
  cases records.get? id.hex with
  | none => simp
  | some bytes => cases decoded : Record.decode bytes <;> simp [Except.map, decoded]

theorem recorded_eq_none {records : Dictionary (List UInt8)} {id : SessionId} :
    recorded records id = .ok none ↔ records.get? id.hex = none := by
  unfold recorded
  cases records.get? id.hex with
  | none => simp
  | some bytes => cases decoded : Record.decode bytes <;> simp [Except.map, decoded]

theorem get_put (store : Store) (s : Session) (id : SessionId) :
    (store.put s).get id = if s.id = id then .ok (some s) else store.get id := by
  simp only [get, put, recorded, Dictionary.get?_insert, SessionId.hex_inj]
  by_cases h : s.id = id <;> simp [h]

theorem get_put_self (store : Store) (s : Session) : (store.put s).get s.id = .ok (some s) := by
  rw [get_put, if_pos rfl]

theorem get_put_of_ne {store : Store} {s : Session} {id : SessionId} (h : s.id ≠ id) :
    (store.put s).get id = store.get id := by
  rw [get_put, if_neg h]

theorem get_touch (store : Store) (id other : SessionId) :
    (store.touch id).get other = store.get other := by
  unfold touch
  split
  · rename_i s found
    by_cases h : id = other
    · subst h
      rw [found]
      simp [get, Dictionary.get?_insert]
    · simp [get, Dictionary.get?_insert, h]
  · rfl

theorem get_empty (id : SessionId) : empty.get id = .ok none := rfl

theorem contains_eq_false_iff {store : Store} {id : SessionId} :
    store.contains id = false ↔ store.get id = .ok none := by
  unfold contains Dictionary.contains get recorded
  cases store.cache.get? id.hex with
  | some s => simp
  | none =>
    cases store.records.get? id.hex with
    | none => simp
    | some bytes => cases decoded : Record.decode bytes <;> simp [Except.map, decoded]

end SignInJourney.Store
