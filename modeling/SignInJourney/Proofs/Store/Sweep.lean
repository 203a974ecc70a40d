import SignInJourney.Proofs.Data.Dictionary
import SignInJourney.Proofs.Session.Record
import SignInJourney.Proofs.Store.View

/-!
What a sweep leaves of a store, whatever its records are. A record is kept while the retention
period of its session lasts (`IsKept`), and one that cannot be read is not; as long as the cache
holds nothing but what the records do, a sweep takes the same sessions out of both (`Cleared`), and
a second one has nothing left to do (`swept_swept`).
-/

namespace SignInJourney

open Time

theorem Time.Instant.lt_iff {a b : Instant} :
    a < b ↔ a.seconds < b.seconds ∨ a.seconds = b.seconds ∧ a.nanos < b.nanos :=
  Iff.rfl

theorem Time.Instant.lt_irrefl (a : Instant) : ¬ a < a := by
  rw [Instant.lt_iff]
  omega

theorem Time.Instant.lt_of_lt_of_not_lt {a b c : Instant} (before : a < b) (order : ¬ c < b) :
    a < c := by
  rw [Instant.lt_iff] at *
  omega

namespace Store

variable {store : Store} {now earlier : Instant} {retention : Span} {s : Session}
  {bytes : List UInt8}

/-- Every cached session is what the record under its key decodes to. -/
def CacheAgrees (store : Store) : Prop :=
  ∀ ⦃key s⦄, store.cache.get? key = some s →
    ∃ bytes, store.records.get? key = some bytes ∧ Record.decode bytes = .ok s

/-- The retention period of every recorded session ends at an instant. -/
def RetentionEnds (store : Store) (retention : Span) : Prop :=
  ∀ ⦃key bytes s⦄, store.records.get? key = some bytes → Record.decode bytes = .ok s →
    ∃ last, s.envelope.expiry.add? retention = some last

/-- The record of a session whose retention period is not over. -/
def IsKept (now : Instant) (retention : Span) (bytes : List UInt8) : Prop :=
  ∃ s last, Record.decode bytes = .ok s ∧ s.envelope.expiry.add? retention = some last ∧
    ¬ last < now

/-- The store without what is to be removed by now. -/
def swept (store : Store) (now : Instant) (retention : Span) : Store :=
  { records := store.records.filter fun _ bytes => !isRemovable now retention bytes
    cache := store.cache.filter fun _ s => !isStale now retention s }

/-! ### Records -/

theorem isRemovable_of_decode (decoded : Record.decode bytes = .ok s) :
    isRemovable now retention bytes = isStale now retention s := by
  rw [isRemovable, decoded]

theorem isStale_eq_false_iff {last : Instant}
    (ends : s.envelope.expiry.add? retention = some last) :
    isStale now retention s = false ↔ ¬ last < now := by
  simp [isStale, removable?, ends]

theorem isKept_of_decode {last : Instant} (decoded : Record.decode bytes = .ok s)
    (ends : s.envelope.expiry.add? retention = some last) :
    IsKept now retention bytes ↔ ¬ last < now := by
  simp [IsKept, decoded, ends]

/-- A sweep goes by what is kept. -/
theorem isRemovable_eq_false_iff
    (ends : ∀ s, Record.decode bytes = .ok s →
      ∃ last, s.envelope.expiry.add? retention = some last) :
    isRemovable now retention bytes = false ↔ IsKept now retention bytes := by
  cases decoded : Record.decode bytes with
  | error e => simp [isRemovable, IsKept, decoded]
  | ok s =>
    obtain ⟨last, ends⟩ := ends s decoded
    rw [isRemovable_of_decode decoded, isStale_eq_false_iff ends, isKept_of_decode decoded ends]

/-- What is stale stays so. -/
theorem isStale_mono (order : ¬ now < earlier) (stale : isStale earlier retention s = true) :
    isStale now retention s = true := by
  unfold isStale at *
  cases ends : removable? retention s with
  | none => simp [ends] at stale
  | some last =>
    simp only [ends, Option.any_some, decide_eq_true_eq] at stale ⊢
    exact Instant.lt_of_lt_of_not_lt stale order

theorem isRemovable_mono (order : ¬ now < earlier)
    (removable : isRemovable earlier retention bytes = true) :
    isRemovable now retention bytes = true := by
  unfold isRemovable at *
  split at removable
  · exact isStale_mono order removable
  · rfl

/-! ### Sweeps -/

theorem get?_swept_records (key : String) :
    (store.swept now retention).records.get? key =
      (store.records.get? key).filter fun bytes => !isRemovable now retention bytes :=
  Dictionary.get?_filter _ _ _

theorem get?_swept_cache (key : String) :
    (store.swept now retention).cache.get? key =
      (store.cache.get? key).filter fun s => !isStale now retention s :=
  Dictionary.get?_filter _ _ _

/-- A sweep that an earlier one goes before leaves what it leaves alone. -/
theorem swept_swept (order : ¬ now < earlier) :
    (store.swept earlier retention).swept now retention = store.swept now retention := by
  unfold swept
  simp only [Dictionary.filter_filter]
  congr 2
  · funext key bytes
    cases removable : isRemovable earlier retention bytes with
    | false => simp
    | true => simp [isRemovable_mono order removable]
  · funext key s
    cases stale : isStale earlier retention s with
    | false => simp
    | true => simp [isStale_mono order stale]

theorem retainable_records_iff :
    retainable retention (readable store.records) = true ↔ store.RetentionEnds retention := by
  simp only [retainable, readable, List.all_eq_true, List.mem_filterMap]
  constructor
  · intro all key bytes s record decoded
    refine Option.isSome_iff_exists.mp (all s ⟨_, Dictionary.get?_eq_some_iff.mp record, ?_⟩)
    rw [decoded]
    rfl
  · rintro ends s ⟨e, entry, readable⟩
    have record := Dictionary.get?_eq_some_iff.mpr entry
    cases decoded : Record.decode e.2 with
    | error e => simp [decoded, Except.toOption] at readable
    | ok t =>
      rw [decoded] at readable
      obtain rfl := Option.some.inj readable
      exact Option.isSome_iff_exists.mpr (ends record decoded)

theorem retainable_cache (agrees : store.CacheAgrees) (ends : store.RetentionEnds retention) :
    retainable retention (store.cache.entries.map (·.2)) = true := by
  simp only [retainable, List.all_eq_true, List.mem_map]
  rintro s ⟨e, entry, rfl⟩
  obtain ⟨bytes, record, decoded⟩ := agrees (Dictionary.get?_eq_some_iff.mpr entry)
  exact Option.isSome_iff_exists.mpr (ends record decoded)

/-- A sweep comes to its end where every retention period does. -/
theorem RetentionEnds.sweep_eq (ends : store.RetentionEnds retention)
    (agrees : store.CacheAgrees) :
    store.sweep now retention =
      (some (store.size - (store.swept now retention).size), store.swept now retention) := by
  have cache := retainable_cache agrees ends
  have records := retainable_records_iff.mpr ends
  unfold Store.sweep
  simp only [cache, records, if_true]
  rfl

/-! ### What is left -/

theorem CacheAgrees.swept (agrees : store.CacheAgrees) (now : Instant) (retention : Span) :
    (store.swept now retention).CacheAgrees := by
  intro key s hit
  rw [get?_swept_cache] at hit
  obtain ⟨hit, kept⟩ := Option.filter_eq_some_iff.mp hit
  obtain ⟨bytes, record, decoded⟩ := agrees hit
  refine ⟨bytes, ?_, decoded⟩
  rw [get?_swept_records, record, Option.filter_eq_some_iff]
  exact ⟨rfl, isRemovable_of_decode decoded ▸ kept⟩

theorem RetentionEnds.swept (ends : store.RetentionEnds retention) (now : Instant) :
    (store.swept now retention).RetentionEnds retention := by
  intro key bytes s record
  rw [get?_swept_records] at record
  exact ends (Option.filter_eq_some_iff.mp record).1

/-- As many records are gone as there are fewer. -/
theorem size_sub_size_swept (store : Store) (now : Instant) (retention : Span) :
    store.size - (store.swept now retention).size =
      {key | store.records.contains key = true ∧
        (store.swept now retention).records.contains key = false}.ncard := by
  have fewer : {key | (store.swept now retention).records.contains key = true} ⊆
      {key | store.records.contains key = true} := by
    intro key there
    obtain ⟨bytes, found⟩ := Option.isSome_iff_exists.mp there
    rw [get?_swept_records] at found
    exact Option.isSome_iff_exists.mpr ⟨bytes, (Option.filter_eq_some_iff.mp found).1⟩
  have finite := (store.swept now retention).records.finite_contains
  have lost : {key | store.records.contains key = true ∧
      (store.swept now retention).records.contains key = false} =
      {key | store.records.contains key = true} \
        {key | (store.swept now retention).records.contains key = true} := by
    ext key
    simp
  rw [lost, Set.ncard_sdiff fewer finite, Dictionary.ncard_contains, Dictionary.ncard_contains]
  rfl

/-- An id whose record is not to be removed has what it had before. -/
theorem get_swept_of_kept (agrees : store.CacheAgrees) {id : SessionId}
    (kept : ∀ bytes, store.records.get? id.hex = some bytes →
      isRemovable now retention bytes = false) :
    (store.swept now retention).cache.get? id.hex = store.cache.get? id.hex ∧
      (store.swept now retention).records.get? id.hex = store.records.get? id.hex := by
  rw [get?_swept_cache, get?_swept_records]
  constructor
  · cases hit : store.cache.get? id.hex with
    | none => rfl
    | some s =>
      obtain ⟨bytes, record, decoded⟩ := agrees hit
      have stays := kept bytes record
      rw [isRemovable_of_decode decoded] at stays
      simp [stays]
  · cases record : store.records.get? id.hex with
    | none => rfl
    | some bytes => simp [kept bytes record]

/-- An id whose record is removed has nothing any more, in the cache or out of it. -/
theorem get_swept_of_removed (agrees : store.CacheAgrees) {id : SessionId}
    (record : store.records.get? id.hex = some bytes)
    (removed : isRemovable now retention bytes = true) :
    (store.swept now retention).cache.get? id.hex = none ∧
      (store.swept now retention).records.get? id.hex = none := by
  have gone : (store.swept now retention).records.get? id.hex = none := by
    rw [get?_swept_records, record]
    simp [removed]
  refine ⟨?_, gone⟩
  cases hit : (store.swept now retention).cache.get? id.hex with
  | none => rfl
  | some s =>
    -- What the cache still has the records would have as well.
    obtain ⟨_, still, _⟩ := agrees.swept now retention hit
    rw [gone] at still
    cases still

/-- What a sweep makes of a store: it has removed some number of records and left another store. -/
structure Cleared (store : Store) (now : Instant) (retention : Span) (removed : Nat)
    (left : Store) : Prop where
  records : ∀ key bytes, left.records.get? key = some bytes ↔
    store.records.get? key = some bytes ∧ IsKept now retention bytes
  counted : removed =
    {key | store.records.contains key = true ∧ left.records.contains key = false}.ncard
  /-- Nothing is found of a removed session, be it in the cache or in the records. -/
  gone : ∀ id bytes, store.records.get? id.hex = some bytes → ¬ IsKept now retention bytes →
    left.cache.get? id.hex = none ∧ left.records.get? id.hex = none ∧
      left.get id = .ok none ∧ left.contains id = false
  others : ∀ id, (∀ bytes, store.records.get? id.hex = some bytes → IsKept now retention bytes) →
    left.get id = store.get id ∧ left.contains id = store.contains id
  agrees : left.CacheAgrees
  again : left.sweep now retention = (some 0, left)
  /-- It makes no difference whether there has been a sweep before. -/
  stepwise : ∀ earlier, ¬ now < earlier → ∃ count between,
    store.sweep earlier retention = (some count, between) ∧
      (between.sweep now retention).2 = left

theorem cleared_swept (agrees : store.CacheAgrees) (ends : store.RetentionEnds retention) :
    store.Cleared now retention (store.size - (store.swept now retention).size)
      (store.swept now retention) := by
  have kept {key bytes} (record : store.records.get? key = some bytes) :
      isRemovable now retention bytes = false ↔ IsKept now retention bytes :=
    isRemovable_eq_false_iff fun _ => ends record
  refine ⟨fun key bytes => ?_, size_sub_size_swept store now retention,
    fun id bytes record ended => ?_, fun id lasting => ?_, agrees.swept now retention, ?_,
    fun earlier order => ?_⟩
  · rw [get?_swept_records, Option.filter_eq_some_iff]
    refine and_congr_right fun record => ?_
    rw [Bool.not_eq_true', kept record]
  · have removed : isRemovable now retention bytes = true := by
      rw [← Bool.not_eq_false, kept record]
      exact ended
    obtain ⟨uncached, unrecorded⟩ := get_swept_of_removed agrees record removed
    have missing : (store.swept now retention).get id = .ok none := by
      simp only [Store.get, recorded, uncached, unrecorded]
    exact ⟨uncached, unrecorded, missing, contains_eq_false_iff.mpr missing⟩
  · obtain ⟨cache, records⟩ := get_swept_of_kept agrees fun bytes record =>
      (kept record).mpr (lasting bytes record)
    simp only [Store.get, recorded, Store.contains, Dictionary.contains, cache, records, true_and]
  · rw [(ends.swept now).sweep_eq (agrees.swept now retention),
      swept_swept (Instant.lt_irrefl now), Nat.sub_self]
  · refine ⟨_, _, ends.sweep_eq agrees, ?_⟩
    rw [(ends.swept earlier).sweep_eq (agrees.swept earlier retention), swept_swept order]

/-! ### Stores that sessions are put into -/

theorem CacheAgrees.put (agrees : store.CacheAgrees) (fits : MessagePack.fits (toTree s)) :
    (store.put s).CacheAgrees := by
  intro key t hit
  rw [Store.put, Dictionary.get?_insert] at hit ⊢
  split at hit
  · rename_i own
    obtain rfl := Option.some.inj hit
    exact ⟨_, if_pos own, Record.decode_encode s fits⟩
  · rename_i other
    rw [if_neg other]
    exact agrees hit

theorem RetentionEnds.put (ends : store.RetentionEnds retention)
    (fits : MessagePack.fits (toTree s))
    (own : ∃ last, s.envelope.expiry.add? retention = some last) :
    (store.put s).RetentionEnds retention := by
  intro key bytes t record decoded
  rw [Store.put, Dictionary.get?_insert] at record
  split at record
  · obtain rfl := Option.some.inj record
    rw [Record.decode_encode s fits, Except.ok.injEq] at decoded
    exact decoded ▸ own
  · exact ends record decoded

/-- A sweep removes the records that cannot be read and those whose sessions have been kept for the
retention period, and no others, whatever the store has recorded and of that in its cache. -/
theorem sweep_removes_stale (agrees : store.CacheAgrees) (ends : store.RetentionEnds retention)
    (now : Instant) :
    ∃ removed left, store.sweep now retention = (some removed, left) ∧
      store.Cleared now retention removed left :=
  ⟨_, _, ends.sweep_eq agrees, cleared_swept agrees ends⟩

/-- A retention period that is over at once. -/
def noTime : Span :=
  (Span.ofSeconds? 0).get (by decide)

/-- A session whose deadline is the start of 1970. -/
def firstSession : Session :=
  let last := Record.lastSession
  { last with
    envelope :=
      { last.envelope with
        sessionId := ⟨List.replicate 16 2, List.length_replicate⟩
        expiry := (Instant.of? 0 0).get (by decide) } }

/-- A record that cannot be read, a session from 1970 and one from the last second. -/
def sampleStore : Store :=
  ((⟨Dictionary.empty.insert "unreadable" [], .empty⟩ : Store).put firstSession).put
    Record.lastSession

/-- In the last second the session from 1970 is gone, and the one from that second is not. -/
theorem sweep_sampleStore :
    ∃ removed left, sampleStore.sweep Record.lastSession.envelope.expiry noTime =
        (some removed, left) ∧
      left.get firstSession.id = .ok none ∧
      left.get Record.lastSession.id = .ok (some Record.lastSession) := by
  have fitsFirst : MessagePack.fits (toTree firstSession) := by decide +kernel
  have fitsLast : MessagePack.fits (toTree Record.lastSession) := by decide +kernel
  have agrees : sampleStore.CacheAgrees := by
    have uncached : CacheAgrees ⟨Dictionary.empty.insert "unreadable" [], .empty⟩ :=
      fun _ _ hit => nomatch hit
    exact (uncached.put fitsFirst).put fitsLast
  have ends : sampleStore.RetentionEnds noTime := by
    have unreadable : RetentionEnds ⟨Dictionary.empty.insert "unreadable" [], .empty⟩
        noTime := by
      intro key bytes s record decoded
      rw [Dictionary.get?_insert, Dictionary.get?_empty] at record
      split at record
      · obtain rfl := Option.some.inj record
        cases decoded
      · cases record
    exact (unreadable.put fitsFirst ⟨_, rfl⟩).put fitsLast ⟨_, rfl⟩
  obtain ⟨removed, left, sweeps, cleared⟩ :=
    sweep_removes_stale agrees ends Record.lastSession.envelope.expiry
  refine ⟨removed, left, sweeps, ?_, ?_⟩
  · have record : sampleStore.records.get? firstSession.id.hex =
        some (Record.encode firstSession) := by decide +kernel
    refine (cleared.gone _ _ record ?_).2.2.1
    rw [isKept_of_decode (Record.decode_encode _ fitsFirst) rfl]
    decide
  · have lasting : ∀ bytes, sampleStore.records.get? Record.lastSession.id.hex = some bytes →
        IsKept Record.lastSession.envelope.expiry noTime bytes := by
      intro bytes record
      rw [sampleStore, Store.put, Dictionary.get?_insert, if_pos rfl] at record
      obtain rfl := Option.some.inj record
      rw [isKept_of_decode (Record.decode_encode _ fitsLast) rfl]
      decide
    rw [(cleared.others _ lasting).1]
    exact get_put_self _ _

end Store

end SignInJourney
