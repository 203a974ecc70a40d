import SignInJourney.Proofs.Store.Sweep

/-!
The store and a plain map of sessions. `Keeps` says that the records of a store hold the sessions of
a map, each under its own id, and that the cache holds nothing else; every call keeps it and is
answered by both alike (`Keeps.serve`), whatever the cache has lost before.
-/

namespace SignInJourney

open Time

/-- What a store is asked to do. -/
inductive StoreCall where
  | put (s : Session)
  | get (id : SessionId)
  | contains (id : SessionId)
  | delete (id : SessionId)
  | sweep (now : Instant) (retention : Span)
  | reopen (now : Instant)

inductive StoreAnswer where
  | done
  | found (session : Except RecordError (Option Session))
  | truth (b : Bool)
  /-- How many sessions were removed, if the sweep came to its end. -/
  | swept (removed : Option Nat)

/-- The sessions by their ids, and nothing else. -/
abbrev SessionMap := SessionId → Option Session

namespace SessionMap

def empty : SessionMap := fun _ => none

/-- How many sessions there are. -/
noncomputable def size (m : SessionMap) : Nat :=
  {id | (m id).isSome}.ncard

/-- The retention period of every session ends at an instant. -/
def Retainable (m : SessionMap) (retention : Span) : Prop :=
  ∀ id, ∀ s ∈ m id, (Store.removable? retention s).isSome

/-- The sessions that are not to be removed yet. -/
def fresh (m : SessionMap) (now : Instant) (retention : Span) : SessionMap :=
  fun id => (m id).filter fun s => !Store.isStale now retention s

open Classical in
/-- The answer to a call, and the map after it. A sweep stops at a retention period without end, and
then removes nothing. -/
noncomputable def serve (m : SessionMap) : StoreCall → StoreAnswer × SessionMap
  | .put s => (.done, Function.update m s.id (some s))
  | .get id => (.found (.ok (m id)), m)
  | .contains id => (.truth (m id).isSome, m)
  | .delete id => (.truth (m id).isSome, Function.update m id none)
  | .sweep now retention =>
    if m.Retainable retention then
      (.swept (some {id | ∃ s ∈ m id, Store.isStale now retention s}.ncard), m.fresh now retention)
    else (.swept none, m)
  | .reopen _ => (.done, m)

/-- The answers to calls, each with the number of sessions after it. -/
noncomputable def transcript (m : SessionMap) : List StoreCall → List (StoreAnswer × Nat)
  | [] => []
  | call :: rest =>
    let (answer, after) := m.serve call
    (answer, after.size) :: after.transcript rest

end SessionMap

namespace Store

def serve (store : Store) : StoreCall → StoreAnswer × Store
  | .put s => (.done, store.put s)
  | .get id => (.found (store.get id), store.touch id)
  | .contains id => (.truth (store.contains id), store)
  | .delete id => (.truth (store.records.contains id.hex), store.delete id)
  | .sweep now retention =>
    let (removed, swept) := store.sweep now retention
    (.swept removed, swept)
  | .reopen now => (.done, store.reopen now)

/-- The store with some of its cache only. -/
def forget (store : Store) (keep : String → Session → Bool) : Store :=
  { store with cache := store.cache.filter keep }

/-- A call, and what the cache still holds by then. -/
structure Turn where
  keep : String → Session → Bool
  call : StoreCall

/-- What is put can be recorded: MessagePack has a form for everything in it. -/
def Turn.Storable (turn : Turn) : Prop :=
  ∀ s, turn.call = .put s → MessagePack.fits (toTree s)

def take (store : Store) (turn : Turn) : StoreAnswer × Store :=
  (store.forget turn.keep).serve turn.call

/-- The store after some turns. -/
def after (store : Store) (turns : List Turn) : Store :=
  turns.foldl (fun store turn => (store.take turn).2) store

/-- The answers to calls, each with the number of records after it. -/
def transcript (store : Store) : List Turn → List (StoreAnswer × Nat)
  | [] => []
  | turn :: rest =>
    let (answer, after) := store.take turn
    (answer, after.size) :: after.transcript rest

/-- The store holds the sessions of a map: each in the record under its id, and some of them in the
cache as well. -/
structure Keeps (store : Store) (m : SessionMap) : Prop where
  recorded : ∀ id, recorded store.records id = .ok (m id)
  keyed : ∀ {key bytes}, store.records.get? key = some bytes →
    ∃ s, Record.decode bytes = .ok s ∧ s.id.hex = key
  cached : ∀ {key s}, store.cache.get? key = some s →
    ∃ bytes, store.records.get? key = some bytes ∧ Record.decode bytes = .ok s

theorem keeps_empty : empty.Keeps .empty where
  recorded _ := rfl
  keyed found := nomatch found
  cached found := nomatch found

namespace Keeps

variable {store : Store} {m : SessionMap}

theorem found_iff (keeps : store.Keeps m) {id : SessionId} {s : Session} :
    m id = some s ↔
      ∃ bytes, store.records.get? id.hex = some bytes ∧ Record.decode bytes = .ok s := by
  rw [← recorded_eq_some, keeps.recorded id, Except.ok.injEq]

theorem missing_iff (keeps : store.Keeps m) {id : SessionId} :
    m id = none ↔ store.records.get? id.hex = none := by
  rw [← recorded_eq_none, keeps.recorded id, Except.ok.injEq]

theorem id_eq (keeps : store.Keeps m) {id : SessionId} {s : Session} (found : m id = some s) :
    s.id = id := by
  obtain ⟨bytes, record, decoded⟩ := keeps.found_iff.mp found
  obtain ⟨s', decoded', own⟩ := keeps.keyed record
  rw [decoded, Except.ok.injEq] at decoded'
  exact SessionId.hex_injective (decoded' ▸ own)

theorem get_eq (keeps : store.Keeps m) (id : SessionId) : store.get id = .ok (m id) := by
  unfold Store.get
  -- A cached session is what its record decodes to, so it makes no difference which is taken.
  cases hit : store.cache.get? id.hex with
  | none => exact keeps.recorded id
  | some s =>
    have found : m id = some s := keeps.found_iff.mpr (keeps.cached hit)
    rw [found]

theorem contains_records (keeps : store.Keeps m) (id : SessionId) :
    store.records.contains id.hex = (m id).isSome := by
  unfold Dictionary.contains
  cases found : m id with
  | none =>
    rw [keeps.missing_iff.mp found]
    rfl
  | some s =>
    obtain ⟨bytes, record, -⟩ := keeps.found_iff.mp found
    rw [record]
    rfl

theorem contains_eq (keeps : store.Keeps m) (id : SessionId) :
    store.contains id = (m id).isSome := by
  unfold Store.contains
  rw [keeps.contains_records id, Dictionary.contains]
  cases hit : store.cache.get? id.hex with
  | none => rfl
  | some s =>
    have found : m id = some s := keeps.found_iff.mpr (keeps.cached hit)
    rw [found]
    rfl

/-! ### What calls keep -/

theorem forget (keeps : store.Keeps m) (keep : String → Session → Bool) :
    (store.forget keep).Keeps m where
  recorded := keeps.recorded
  keyed := keeps.keyed
  cached hit := by
    rw [Store.forget, Dictionary.get?_filter] at hit
    exact keeps.cached (Option.filter_eq_some_iff.mp hit).1

theorem put (keeps : store.Keeps m) {s : Session} (fits : MessagePack.fits (toTree s)) :
    (store.put s).Keeps (Function.update m s.id (some s)) := by
  have decoded := Record.decode_encode s fits
  refine ⟨fun id => ?_, fun {key bytes} found => ?_,
    fun {key t} hit => CacheAgrees.put (fun _ _ => keeps.cached) fits hit⟩
  · have before := keeps.recorded id
    unfold Store.recorded at before ⊢
    rw [Store.put, Dictionary.get?_insert]
    by_cases own : s.id = id
    · simp [own, decoded, Except.map]
    · simpa [own, Function.update_of_ne (Ne.symm own)] using before
  · rw [Store.put, Dictionary.get?_insert] at found
    split at found
    · rename_i own
      obtain rfl := Option.some.inj found
      exact ⟨s, decoded, own⟩
    · exact keeps.keyed found

theorem touch (keeps : store.Keeps m) (id : SessionId) : (store.touch id).Keeps m := by
  unfold Store.touch
  rw [keeps.get_eq]
  cases found : m id with
  | none => exact keeps
  | some s =>
    refine ⟨keeps.recorded, keeps.keyed, fun {key t} hit => ?_⟩
    rw [Dictionary.get?_insert] at hit
    split at hit
    · rename_i own
      obtain rfl := Option.some.inj hit
      exact own ▸ keeps.found_iff.mp found
    · exact keeps.cached hit

theorem delete (keeps : store.Keeps m) (id : SessionId) :
    (store.delete id).Keeps (Function.update m id none) := by
  refine ⟨fun other => ?_, fun {key bytes} found => ?_, fun {key s} hit => ?_⟩
  · have before := keeps.recorded other
    unfold Store.recorded at before ⊢
    rw [Store.delete, Dictionary.get?_erase]
    by_cases own : other = id
    · simp [own]
    · simpa [own] using before
  · rw [Store.delete, Dictionary.get?_erase] at found
    split at found
    · cases found
    · exact keeps.keyed found
  · rw [Store.delete, Dictionary.get?_erase] at hit ⊢
    split at hit
    · cases hit
    · rename_i other
      rw [if_neg other]
      exact keeps.cached hit

theorem reopen (keeps : store.Keeps m) (now : Instant) : (store.reopen now).Keeps m := by
  refine ⟨keeps.recorded, keeps.keyed, fun {key s} hit => ?_⟩
  have listed := Dictionary.mem_of_get?_ofList hit
  obtain ⟨s', member, same⟩ := List.mem_map.mp listed
  obtain ⟨rfl, rfl⟩ := Prod.mk.inj same
  obtain ⟨e, entry, readable⟩ := List.mem_filterMap.mp member
  have record : store.records.get? e.1 = some e.2 := Dictionary.get?_eq_some_iff.mpr entry
  obtain ⟨t, decoded, own⟩ := keeps.keyed record
  simp only [decoded] at readable
  split at readable
  · cases readable
  · obtain rfl := Option.some.inj readable
    exact ⟨e.2, own ▸ record, decoded⟩

/-! ### Sizes -/

theorem image_hex (keeps : store.Keeps m) :
    SessionId.hex '' {id | (m id).isSome} = {key | store.records.contains key = true} := by
  ext key
  simp only [Set.mem_image, Set.mem_ofPred_eq]
  constructor
  · rintro ⟨id, there, rfl⟩
    rw [keeps.contains_records, there]
  · intro there
    obtain ⟨bytes, record⟩ := Option.isSome_iff_exists.mp there
    obtain ⟨s, decoded, own⟩ := keeps.keyed record
    have found : m s.id = some s := keeps.found_iff.mpr ⟨bytes, own ▸ record, decoded⟩
    exact ⟨s.id, by rw [found]; rfl, own⟩

theorem size_eq (keeps : store.Keeps m) : store.size = m.size := by
  have injective : Function.Injective SessionId.hex := fun _ _ => SessionId.hex_injective
  rw [SessionMap.size, ← Set.ncard_image_of_injective _ injective, keeps.image_hex,
    Dictionary.ncard_contains]
  rfl

theorem finite (keeps : store.Keeps m) : {id | (m id).isSome}.Finite := by
  refine Set.Finite.of_finite_image ?_ (fun _ _ _ _ => SessionId.hex_injective)
  rw [keeps.image_hex]
  exact store.records.finite_contains

/-! ### Sweeps -/

theorem retentionEnds_iff (keeps : store.Keeps m) (retention : Span) :
    store.RetentionEnds retention ↔ m.Retainable retention := by
  constructor
  · intro ends id s found
    obtain ⟨bytes, record, decoded⟩ := keeps.found_iff.mp found
    exact Option.isSome_iff_exists.mpr (ends record decoded)
  · intro all key bytes s record decoded
    obtain ⟨t, decoded', own⟩ := keeps.keyed record
    rw [decoded, Except.ok.injEq] at decoded'
    subst decoded'
    exact Option.isSome_iff_exists.mp (all _ _ (keeps.found_iff.mpr ⟨bytes, own ▸ record, decoded⟩))

/-- What a sweep leaves that comes to its end: no stale session, in either place. -/
theorem swept (keeps : store.Keeps m) (now : Instant) (retention : Span) :
    (store.swept now retention).Keeps (m.fresh now retention) := by
  refine ⟨fun id => ?_, fun {key bytes} found => ?_,
    fun {key s} hit => CacheAgrees.swept (fun _ _ => keeps.cached) now retention hit⟩
  · rw [SessionMap.fresh]
    cases found : m id with
    | none =>
      have missing := keeps.missing_iff.mp found
      simp [Store.recorded, get?_swept_records, missing]
    | some s =>
      obtain ⟨bytes, record, decoded⟩ := keeps.found_iff.mp found
      have alike := @isRemovable_of_decode now retention _ _ decoded
      cases stale : isStale now retention s <;>
        simp [Store.recorded, get?_swept_records, Option.filter_some, record, alike, stale,
          decoded, Except.map]
  · rw [get?_swept_records] at found
    exact keeps.keyed (Option.filter_eq_some_iff.mp found).1

theorem sweep_retainable (keeps : store.Keeps m) (now : Instant) {retention : Span}
    (all : m.Retainable retention) :
    (store.sweep now retention).1 = some {id | ∃ s ∈ m id, isStale now retention s}.ncard ∧
      (store.sweep now retention).2.Keeps (m.fresh now retention) := by
  have ends := (keeps.retentionEnds_iff retention).mpr all
  have swept := keeps.swept now retention
  -- The store counts records before and after; what is stale is the difference.
  have stale : {id | ∃ s ∈ m id, isStale now retention s} =
      {id | (m id).isSome} \ {id | (m.fresh now retention id).isSome} := by
    ext id
    cases found : m id <;> simp [SessionMap.fresh, found]
  have fewer : {id | (m.fresh now retention id).isSome} ⊆ {id | (m id).isSome} := by
    intro id there
    cases found : m id <;> simp_all [SessionMap.fresh]
  rw [ends.sweep_eq fun _ _ => keeps.cached]
  refine ⟨?_, swept⟩
  rw [stale, Set.ncard_sdiff fewer (keeps.finite.subset fewer)]
  exact congrArg some (congrArg₂ _ keeps.size_eq swept.size_eq)

/-- A sweep that stops removes nothing but what is in the cache. -/
theorem sweep_not_retainable (keeps : store.Keeps m) (now : Instant) {retention : Span}
    (stops : ¬ m.Retainable retention) :
    (store.sweep now retention).1 = none ∧ (store.sweep now retention).2.Keeps m := by
  have records : retainable retention (readable store.records) = false := by
    rw [← Bool.not_eq_true, retainable_records_iff, keeps.retentionEnds_iff retention]
    exact stops
  unfold Store.sweep
  -- The sweep stops over the records, or already over the cache, which is lost then.
  split
  · simp only [records]
    exact ⟨rfl, keeps.forget _⟩
  · exact ⟨rfl, keeps.recorded, keeps.keyed, fun hit => nomatch hit⟩

/-- Nothing but a retention period without end stops a sweep. -/
theorem retainable_of_sweep (keeps : store.Keeps m) {now : Instant} {retention : Span}
    (ended : (store.sweep now retention).1.isSome = true) : m.Retainable retention := by
  refine Classical.not_not.mp fun stops => ?_
  rw [(keeps.sweep_not_retainable now stops).1] at ended
  cases ended

/-! ### Calls -/

/-- Whatever is called, the store answers like the map and then holds what the map holds. -/
theorem serve (keeps : store.Keeps m) {call : StoreCall}
    (fits : ∀ s, call = .put s → MessagePack.fits (toTree s)) :
    (store.serve call).1 = (m.serve call).1 ∧ (store.serve call).2.Keeps (m.serve call).2 := by
  cases call with
  | put s => exact ⟨rfl, keeps.put (fits s rfl)⟩
  | get id => exact ⟨congrArg StoreAnswer.found (keeps.get_eq id), keeps.touch id⟩
  | contains id => exact ⟨congrArg StoreAnswer.truth (keeps.contains_eq id), keeps⟩
  | delete id => exact ⟨congrArg StoreAnswer.truth (keeps.contains_records id), keeps.delete id⟩
  | reopen now => exact ⟨rfl, keeps.reopen now⟩
  | sweep now retention =>
    by_cases all : m.Retainable retention
    · obtain ⟨removed, after⟩ := keeps.sweep_retainable now all
      simp only [Store.serve, SessionMap.serve, if_pos all]
      exact ⟨congrArg StoreAnswer.swept removed, after⟩
    · obtain ⟨removed, after⟩ := keeps.sweep_not_retainable now all
      simp only [Store.serve, SessionMap.serve, if_neg all]
      exact ⟨congrArg StoreAnswer.swept removed, after⟩

theorem take (keeps : store.Keeps m) {turn : Turn} (storable : turn.Storable) :
    (store.take turn).1 = (m.serve turn.call).1 ∧
      (store.take turn).2.Keeps (m.serve turn.call).2 :=
  (keeps.forget turn.keep).serve storable

theorem after (keeps : store.Keeps m) {turns : List Turn}
    (storable : ∀ turn ∈ turns, turn.Storable) : ∃ m', (store.after turns).Keeps m' := by
  induction turns generalizing store m with
  | nil => exact ⟨m, keeps⟩
  | cons turn rest ih =>
    rw [List.forall_mem_cons] at storable
    exact ih (keeps.take storable.1).2 storable.2

theorem transcript_eq (keeps : store.Keeps m) {turns : List Turn}
    (storable : ∀ turn ∈ turns, turn.Storable) :
    store.transcript turns = m.transcript (turns.map Turn.call) := by
  induction turns generalizing store m with
  | nil => rfl
  | cons turn rest ih =>
    rw [List.forall_mem_cons] at storable
    obtain ⟨answer, taken⟩ := keeps.take storable.1
    simp only [Store.transcript, List.map_cons, SessionMap.transcript, answer, taken.size_eq,
      ih taken storable.2]

end Keeps

/-- The two copies of the sessions agree, and it does not show which of them the cache has. -/
structure Coherent (store : Store) : Prop where
  /-- A cached session is what its record decodes to. -/
  cached : ∀ {key s}, store.cache.get? key = some s →
    ∃ bytes, store.records.get? key = some bytes ∧ Record.decode bytes = .ok s
  contains_iff : ∀ id, store.contains id ↔ ∃ s, store.get id = .ok (some s)
  id_eq : ∀ {id s}, store.get id = .ok (some s) → s.id = id
  /-- Nothing that is called later tells whether the store was opened again. -/
  reopened : ∀ now turns, (∀ turn ∈ turns, Turn.Storable turn) →
    (store.reopen now).transcript turns = store.transcript turns

theorem Keeps.coherent {store : Store} {m : SessionMap} (keeps : store.Keeps m) :
    store.Coherent where
  cached := keeps.cached
  contains_iff id := by
    rw [keeps.contains_eq, keeps.get_eq, Option.isSome_iff_exists]
    simp only [Except.ok.injEq]
  id_eq found := by
    rw [keeps.get_eq, Except.ok.injEq] at found
    exact keeps.id_eq found
  reopened now turns storable := by
    rw [(keeps.reopen now).transcript_eq storable, keeps.transcript_eq storable]

/-- A store is a plain map of sessions: it answers every call like the map, and has as many records
after it, whatever its cache has lost before the call. -/
theorem transcript_eq_map (turns : List Turn) (storable : ∀ turn ∈ turns, turn.Storable) :
    empty.transcript turns = SessionMap.empty.transcript (turns.map Turn.call) ∧
      (empty.after turns).Coherent := by
  obtain ⟨m, keeps⟩ := keeps_empty.after storable
  exact ⟨keeps_empty.transcript_eq storable, keeps.coherent⟩

/-- A session is put, dropped from the cache and read from its record; then the store is swept,
opened again and asked for it once more. -/
def sampleTurns : List Turn :=
  let s := Record.lastSession
  let now := s.envelope.expiry
  [⟨fun _ _ => true, .put s⟩, ⟨fun _ _ => false, .get s.id⟩,
    ⟨fun _ _ => true, .sweep now ⟨0, by decide, by decide⟩⟩, ⟨fun _ _ => true, .reopen now⟩,
    ⟨fun _ _ => false, .delete s.id⟩, ⟨fun _ _ => true, .contains s.id⟩]

theorem transcript_sampleTurns :
    (∀ turn ∈ sampleTurns, turn.Storable) ∧
    empty.transcript sampleTurns = SessionMap.empty.transcript (sampleTurns.map Turn.call) ∧
    (empty.after sampleTurns).Coherent := by
  have fits : MessagePack.fits (toTree Record.lastSession) := by decide +kernel
  have storable : ∀ turn ∈ sampleTurns, turn.Storable := by
    simp [sampleTurns, Turn.Storable, fits]
  exact ⟨storable, transcript_eq_map sampleTurns storable⟩

end Store

end SignInJourney
