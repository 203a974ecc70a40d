import SignInJourney.Proofs.Store.Map

/-!
The keys of a store. A session is stored under the text of its id, and ids and texts determine each
other (`ids_and_texts_correspond`). So a call on one session leaves what is stored under the key of
another (`undisturbed_serve`), and so does a run of such calls (`undisturbed_after`).
-/

namespace SignInJourney

/-- The id under whose key a call stores or looks; a sweep and a new start go through all keys. -/
def StoreCall.id? : StoreCall → Option SessionId
  | .put s => some s.id
  | .get id | .contains id | .delete id => some id
  | .sweep .. | .reopen _ => none

/-- A call on a session with another id. -/
def StoreCall.IsElsewhere (id : SessionId) (call : StoreCall) : Prop :=
  ∃ other, call.id? = some other ∧ other ≠ id

namespace Store

/-- Under the key of an id there is the same record afterwards, and in the cache no session that was
not there before. -/
structure Undisturbed (id : SessionId) (before after : Store) : Prop where
  record : after.records.get? id.hex = before.records.get? id.hex
  cached : ∀ s, after.cache.get? id.hex = some s → before.cache.get? id.hex = some s

section Undisturbed

variable {id : SessionId}

theorem Undisturbed.refl (store : Store) : Undisturbed id store store :=
  ⟨rfl, fun _ hit => hit⟩

theorem Undisturbed.trans {a b c : Store} (first : Undisturbed id a b)
    (second : Undisturbed id b c) : Undisturbed id a c :=
  ⟨second.record.trans first.record, fun s hit => first.cached s (second.cached s hit)⟩

variable (store : Store)

theorem undisturbed_forget (keep : String → Session → Bool) :
    Undisturbed id store (store.forget keep) := by
  refine ⟨rfl, fun s hit => ?_⟩
  rw [forget, Dictionary.get?_filter] at hit
  exact (Option.filter_eq_some_iff.mp hit).1

/-- What goes into the cache under one key is not found under another. -/
theorem undisturbed_cache {other : SessionId} (s : Session) (apart : other ≠ id) :
    Undisturbed id store { store with cache := store.cache.insert other.hex s } := by
  refine ⟨rfl, fun t hit => ?_⟩
  rwa [Dictionary.get?_insert, if_neg (mt SessionId.hex_injective apart)] at hit

theorem undisturbed_put {s : Session} (apart : s.id ≠ id) :
    Undisturbed id store (store.put s) := by
  refine ⟨?_, (undisturbed_cache store s apart).cached⟩
  rw [put, Dictionary.get?_insert, if_neg (mt SessionId.hex_injective apart)]

theorem undisturbed_touch {other : SessionId} (apart : other ≠ id) :
    Undisturbed id store (store.touch other) := by
  unfold touch
  split
  · exact undisturbed_cache store _ apart
  · exact .refl store

theorem undisturbed_delete {other : SessionId} (apart : other ≠ id) :
    Undisturbed id store (store.delete other) := by
  have own : id.hex ≠ other.hex := mt SessionId.hex_injective apart.symm
  refine ⟨?_, fun s hit => ?_⟩
  · rw [delete, Dictionary.get?_erase, if_neg own]
  · rwa [delete, Dictionary.get?_erase, if_neg own] at hit

theorem undisturbed_serve {call : StoreCall} (elsewhere : call.IsElsewhere id) :
    Undisturbed id store (store.serve call).2 := by
  obtain ⟨other, goes, apart⟩ := elsewhere
  cases call with
  | put s =>
    cases goes
    exact undisturbed_put store apart
  | get =>
    cases goes
    exact undisturbed_touch store apart
  | contains => exact .refl store
  | delete =>
    cases goes
    exact undisturbed_delete store apart
  | sweep | reopen => cases goes

theorem undisturbed_after {turns : List Turn}
    (elsewhere : ∀ turn ∈ turns, turn.call.IsElsewhere id) :
    Undisturbed id store (store.after turns) := by
  induction turns generalizing store with
  | nil => exact .refl store
  | cons turn rest ih =>
    rw [List.forall_mem_cons] at elsewhere
    have served : Undisturbed id store (store.take turn).2 :=
      (undisturbed_forget store turn.keep).trans (undisturbed_serve _ elsewhere.1)
    exact served.trans (ih _ elsewhere.2)

end Undisturbed

end Store

/-- A text names an id exactly if it is thirty-two digits in either case, and then it is the text of
that id but for the case. So no two ids have the same text, and what is stored under the key of one
is left alone by all that is done, in whatever order, under the keys of others. -/
theorem ids_and_texts_correspond :
    (∀ text, (∃ id, SessionId.ofHex? text = some id) ↔
      text.length = 32 ∧ ∀ c ∈ text.toList, Hex.IsDigit c) ∧
    (∀ text id, SessionId.ofHex? text = some id ↔ id.hex = text.toLower) ∧
    (∀ id, SessionId.ofHex? id.hex = some id) ∧
    Function.Injective SessionId.hex ∧
    ∀ (store : Store) (turns : List Store.Turn) (id : SessionId),
      (∀ turn ∈ turns, turn.call.IsElsewhere id) → store.Undisturbed id (store.after turns) :=
  ⟨fun _ => SessionId.exists_ofHex?_iff, fun _ _ => SessionId.ofHex?_eq_some_iff,
    SessionId.ofHex?_hex, fun _ _ => SessionId.hex_injective,
    fun store _ _ => Store.undisturbed_after store⟩

end SignInJourney
