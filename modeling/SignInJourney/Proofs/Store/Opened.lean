import Mathlib.Data.String.Basic
import Mathlib.Order.Preorder.Finite
import SignInJourney.Proofs.Data.Dictionary
import SignInJourney.Proofs.Session.Record
import SignInJourney.Proofs.Store.View

/-!
What a store answers right after it is opened, whatever its records are. The cache is filled by the
ids in the sessions and the records are found by their keys; so long as every session is recorded
under its own id the two agree, and elsewhere the cache comes first (`Opened`).
-/

namespace SignInJourney.Store

open Time

variable {records : Dictionary (List UInt8)} {now : Instant} {id : SessionId} {key : String}
  {s : Session}

/-- The record under a key has a session that is in time, and goes by this id. -/
structure Holds (records : Dictionary (List UInt8)) (now : Instant) (id : SessionId) (key : String)
    (s : Session) : Prop where
  recorded : ∃ bytes, records.get? key = some bytes ∧ Record.decode bytes = .ok s
  inTime : s.isExpiredAt now = false
  id_eq : s.id = id

/-- The session of an entry that enters a fresh cache. -/
def liveIn? (now : Instant) (e : String × List UInt8) : Option Session :=
  match Record.decode e.2 with
  | .ok s => if s.isExpiredAt now then none else some s
  | .error _ => none

theorem liveIn?_eq_some {e : String × List UInt8} :
    liveIn? now e = some s ↔ Record.decode e.2 = .ok s ∧ s.isExpiredAt now = false := by
  unfold liveIn?
  cases Record.decode e.2 with
  | error e => simp
  | ok t => cases late : t.isExpiredAt now <;> grind

theorem holds_iff : Holds records now id key s ↔
    ∃ bytes, (key, bytes) ∈ records.entries ∧ liveIn? now (key, bytes) = some s ∧ s.id = id := by
  simp only [liveIn?_eq_some, ← Dictionary.get?_eq_some_iff]
  constructor
  · rintro ⟨⟨bytes, record, decoded⟩, inTime, own⟩
    exact ⟨bytes, record, ⟨decoded, inTime⟩, own⟩
  · rintro ⟨bytes, record, ⟨decoded, inTime⟩, own⟩
    exact ⟨⟨bytes, record, decoded⟩, inTime, own⟩

/-- Of the sessions in time that go by an id, a fresh cache has the one recorded last. -/
theorem cached_of_last (holds : Holds records now id key s)
    (last : ∀ later t, key < later → ¬ Holds records now id later t) :
    (ofRecords records now).cache.get? id.hex = some s := by
  obtain ⟨bytes, entry, here, own⟩ := holds_iff.mp holds
  obtain ⟨before, after, whole⟩ := List.append_of_mem entry
  -- Nothing that enters the cache later goes by the id.
  have nothingLater : ((after.filterMap (liveIn? now)).map fun t => (t.id.hex, t)).reverse.find?
      (fun e => e.1 = id.hex) = none := by
    rw [List.find?_eq_none]
    intro e member same
    obtain ⟨t, live, rfl⟩ := List.mem_map.mp (List.mem_reverse.mp member)
    obtain ⟨⟨later, bytes'⟩, entry', there⟩ := List.mem_filterMap.mp live
    have ordered := records.ordered
    rw [whole, List.pairwise_append] at ordered
    have order : key < later := (List.pairwise_cons.mp ordered.2.1).1 _ entry'
    have goes : t.id = id := SessionId.hex_injective (of_decide_eq_true same)
    have listed : (later, bytes') ∈ records.entries := by
      rw [whole]
      exact List.mem_append_right _ (List.mem_cons_of_mem _ entry')
    exact last later t order (holds_iff.mpr ⟨bytes', listed, there, goes⟩)
  have live : live records now = before.filterMap (liveIn? now) ++
      s :: after.filterMap (liveIn? now) := by
    show records.entries.filterMap (liveIn? now) = _
    rw [whole, List.filterMap_append, List.filterMap_cons_some here]
  simp only [ofRecords, Dictionary.get?_ofList, live, List.map_append, List.map_cons,
    List.reverse_append, List.reverse_cons, List.find?_append, nothingLater]
  simp [own]

theorem holds_of_cached (hit : (ofRecords records now).cache.get? id.hex = some s) :
    ∃ key, Holds records now id key s := by
  have listed := Dictionary.mem_of_get?_ofList hit
  obtain ⟨t, member, same⟩ := List.mem_map.mp listed
  obtain ⟨hex, rfl⟩ := Prod.mk.inj same
  obtain ⟨⟨key, bytes⟩, entry, live⟩ := List.mem_filterMap.mp member
  exact ⟨key, holds_iff.mpr ⟨bytes, entry, live, SessionId.hex_injective hex⟩⟩

/-- If any session in time goes by an id, there is one recorded last. -/
theorem exists_last (holds : Holds records now id key s) :
    ∃ last t, Holds records now id last t ∧
      ∀ later u, last < later → ¬ Holds records now id later u := by
  have finite : {key | ∃ s, Holds records now id key s}.Finite := by
    refine records.finite_contains.subset ?_
    rintro key ⟨s, holds⟩
    obtain ⟨bytes, entry, _⟩ := holds_iff.mp holds
    exact Dictionary.contains_iff.mpr ⟨bytes, entry⟩
  obtain ⟨last, ⟨t, lastHolds⟩, greatest⟩ := finite.exists_maximal ⟨key, s, holds⟩
  refine ⟨last, t, lastHolds, fun later u order laterHolds => ?_⟩
  exact absurd order (not_lt_of_ge (greatest ⟨u, laterHolds⟩ (le_of_lt order)))

theorem get_of_uncached {store : Store} (miss : store.cache.get? id.hex = none) :
    store.get id = recorded store.records id ∧
      store.contains id = store.records.contains id.hex := by
  simp [Store.get, Store.contains, Dictionary.contains, miss]

theorem get_of_cached {store : Store} (hit : store.cache.get? id.hex = some s) :
    store.get id = .ok (some s) ∧ store.contains id = true := by
  simp [Store.get, Store.contains, Dictionary.contains, hit]

/-- What is found under an id in a store that has just been opened. -/
structure Opened (records : Dictionary (List UInt8)) (now : Instant) (id : SessionId)
    (store : Store) : Prop where
  /-- It is what the record under the id has, unless a session in time that goes by the id is
  recorded elsewhere. -/
  alone : (∀ key s, Holds records now id key s → key = id.hex) →
    store.get id = recorded records id ∧ store.contains id = records.contains id.hex
  /-- Of the sessions in time that go by the id it is the one recorded last. -/
  last : ∀ key s, Holds records now id key s → ∃ last t, Holds records now id last t ∧
    (∀ later u, last < later → ¬ Holds records now id later u) ∧
    store.get id = .ok (some t) ∧ store.contains id = true
  /-- It goes by the id, unless the record under the id has a session that does not. -/
  own : ∀ s, store.get id = .ok (some s) → s.id = id ∨ recorded records id = .ok (some s)
  /-- Where every session is recorded under its own id, it is what the record under the id has. -/
  keyed : (∀ key bytes s, records.get? key = some bytes → Record.decode bytes = .ok s →
      s.id.hex = key) →
    store.get id = recorded records id ∧ store.contains id = records.contains id.hex ∧
      ∀ s, store.get id = .ok (some s) → s.id = id

theorem ofRecords_alone (alone : ∀ key s, Holds records now id key s → key = id.hex) :
    (ofRecords records now).get id = recorded records id ∧
      (ofRecords records now).contains id = records.contains id.hex := by
  cases hit : (ofRecords records now).cache.get? id.hex with
  | none => exact get_of_uncached hit
  | some s =>
    obtain ⟨key, holds⟩ := holds_of_cached hit
    obtain rfl := alone key s holds
    obtain ⟨bytes, record, decoded⟩ := holds.recorded
    obtain ⟨found, there⟩ := get_of_cached hit
    rw [found, there, recorded_eq_some.mpr ⟨bytes, record, decoded⟩, Dictionary.contains, record]
    exact ⟨rfl, rfl⟩

theorem ofRecords_own (found : (ofRecords records now).get id = .ok (some s)) :
    s.id = id ∨ recorded records id = .ok (some s) := by
  cases hit : (ofRecords records now).cache.get? id.hex with
  | none => exact .inr ((get_of_uncached hit).1 ▸ found)
  | some t =>
    obtain ⟨key, holds⟩ := holds_of_cached hit
    rw [(get_of_cached hit).1] at found
    cases found
    exact .inl holds.id_eq

/-- The answers of a store that has just been opened, to every id and whatever is recorded under
whatever keys. -/
theorem opened_ofRecords (records : Dictionary (List UInt8)) (now : Instant) (id : SessionId) :
    Opened records now id (ofRecords records now) := by
  refine ⟨ofRecords_alone, fun key s holds => ?_, fun s => ofRecords_own, fun keyed => ?_⟩
  · obtain ⟨last, t, lastHolds, nothingLater⟩ := exists_last holds
    exact ⟨last, t, lastHolds, nothingLater, get_of_cached (cached_of_last lastHolds nothingLater)⟩
  · have alone : ∀ key s, Holds records now id key s → key = id.hex := by
      rintro key s ⟨⟨bytes, record, decoded⟩, _, own⟩
      rw [← own, keyed key bytes s record decoded]
    obtain ⟨same, there⟩ := ofRecords_alone alone
    refine ⟨same, there, fun s found => ?_⟩
    rcases ofRecords_own found with own | recordedHere
    · exact own
    · obtain ⟨bytes, record, decoded⟩ := recorded_eq_some.mp recordedHere
      exact SessionId.hex_injective (keyed _ bytes _ record decoded)

/-- A store opened over the record of a session under a key that is no id answers by the session,
and no record under its id has it. -/
theorem misplaced_session_found :
    ¬ ∀ (records : Dictionary (List UInt8)) (now : Instant) (id : SessionId),
      (ofRecords records now).get id = recorded records id ∧
      ((ofRecords records now).contains id = true ↔ ∃ bytes, records.get? id.hex = some bytes) ∧
      ∀ s, (ofRecords records now).get id = .ok (some s) → s.id = id := by
  intro claim
  let s := Record.lastSession
  let records := Dictionary.empty.insert "misplaced" (Record.encode s)
  have decoded : Record.decode (Record.encode s) = .ok s :=
    Record.decode_encode s (by decide +kernel)
  have holds : Holds records s.envelope.expiry s.id "misplaced" s :=
    ⟨⟨_, rfl, decoded⟩, by decide, rfl⟩
  have nothingLater : ∀ later t, "misplaced" < later →
      ¬ Holds records s.envelope.expiry s.id later t := by
    rintro later t order ⟨⟨bytes, record, _⟩, _, _⟩
    rw [Dictionary.get?_insert, if_neg (ne_of_lt order)] at record
    cases record
  have found := (get_of_cached (cached_of_last holds nothingLater)).1
  have missing : recorded records s.id = .ok none := by decide +kernel
  have same := (claim records s.envelope.expiry s.id).1
  rw [found, missing] at same
  cases same

end SignInJourney.Store
