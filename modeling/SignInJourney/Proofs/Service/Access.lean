import SignInJourney.Proofs.Store.View
import SignInJourney.Service

/-!
Looking a session up for an operation. `Load` lists what can come of it: a refusal that leaves the
store as it was, a session that is stored as timed out, or a session that the operation is `Allowed`
on.
-/

namespace SignInJourney.Access

variable {env : Environment} {store : Store} {id : SessionId} {needed : Option Capability}
  {s : Session}

theorem peek_eq_ok : peek store id = .ok s ↔ store.get id = .ok (some s) := by
  unfold peek
  split <;> simp_all

/-- A session that is not there is past no deadline. -/
theorem inTime_of_peek {r : Refusal} (missing : peek store id = .error r) :
    r.kind ≠ "session_timeout" := by
  unfold peek at missing
  split at missing
  · cases missing
  · cases missing
    simp [Refusal.kind]
  · cases missing
    simp [Refusal.kind]

/-- A session is not past its deadline, or is stored as timed out, and offers what is needed; a
timed-out one is only good for an error response. -/
structure Allowed (env : Environment) (needed : Option Capability) (s : Session) : Prop where
  inTime : s.isExpiredAt env.now = false ∨ s.state = .timedOut
  notTimedOut : s.state = .timedOut → needed = some .errorResponsePrepared
  supports : ∀ c, needed = some c → s.state.supports c = true

/-- An operation is allowed on a session that is in time and offers what it needs. -/
theorem allowed_of_supports {c : Capability} (inTime : s.isExpiredAt env.now = false)
    (supports : s.state.supports c = true) : Allowed env (some c) s := by
  refine ⟨.inl inTime, fun timedOut => ?_, ?_⟩
  · rw [timedOut] at supports
    simpa [State.supports, State.capabilities] using supports
  · rintro _ ⟨⟩
    exact supports

theorem allow_eq_ok {found : Session} :
    allow id needed found = .ok s ↔
      found = s ∧ (s.state = .timedOut → needed = some .errorResponsePrepared) ∧
        ∀ c, needed = some c → s.state.supports c = true := by
  unfold allow
  split
  · rename_i late
    simp only [reduceCtorEq, false_iff]
    rintro ⟨rfl, notTimedOut, -⟩
    exact late.2 (notTimedOut late.1)
  · rename_i inTime
    have notTimedOut : found.state = .timedOut → needed = some .errorResponsePrepared :=
      fun timedOut => Decidable.not_not.mp fun h => inTime ⟨timedOut, h⟩
    cases needed with
    | none =>
      simp only [Except.ok.injEq]
      exact ⟨fun same => ⟨same, same ▸ notTimedOut, fun _ none => nomatch none⟩, And.left⟩
    | some c =>
      simp only [Option.some.injEq, forall_eq']
      split
      · rename_i supports
        rw [Except.ok.injEq]
        exact ⟨fun same => ⟨same, same ▸ ⟨by simpa using notTimedOut, supports⟩⟩, And.left⟩
      · rename_i lacks
        simp only [reduceCtorEq, false_iff]
        rintro ⟨rfl, -, supports⟩
        exact lacks supports

/-- A timed-out session is only good for an error response. -/
theorem allow_of_timedOut (timedOut : s.state = .timedOut)
    (other : needed ≠ some .errorResponsePrepared) :
    allow id needed s = .error (Refusal.timeoutOf s) := by
  unfold allow
  exact if_pos ⟨timedOut, other⟩

/-- Any other is refused only for a capability that its state does not have. -/
theorem unsupported_of_allow (live : s.state ≠ .timedOut) {r : Refusal}
    (refused : allow id needed s = .error r) : ∃ c, r = .unsupported id c s.kind := by
  unfold allow at refused
  rw [if_neg fun late => live late.1] at refused
  split at refused
  · rename_i c
    split at refused
    · cases refused
    · cases refused
      exact ⟨c, rfl⟩
  · cases refused

/-- A session that is in time, or stored as timed out already, is found as it is, and whether it is
any good depends on its state. -/
theorem load_of_not_late (found : store.get id = .ok (some s))
    (inTime : ¬ (s.isExpiredAt env.now = true ∧ s.state ≠ .timedOut)) :
    load env store id needed =
      { result := allow id needed s, store := store.touch id, reports := [] } := by
  simp only [load, peek_eq_ok.mpr found, if_neg inTime]

theorem load_of_inTime (found : store.get id = .ok (some s))
    (inTime : s.isExpiredAt env.now = false) :
    load env store id needed =
      { result := allow id needed s, store := store.touch id, reports := [] } :=
  load_of_not_late found (by simp [inTime])

/-- A timed-out session is found as it is, whatever the clock shows. -/
theorem load_of_timedOut (found : store.get id = .ok (some s)) (timedOut : s.state = .timedOut) :
    load env store id needed =
      { result := allow id needed s, store := store.touch id, reports := [] } :=
  load_of_not_late found (by simp [timedOut])

/-- A session that an operation is allowed on is found for it. -/
theorem load_of_allowed (found : store.get id = .ok (some s)) (allowed : Allowed env needed s) :
    load env store id needed = { result := .ok s, store := store.touch id, reports := [] } := by
  have permits : allow id needed s = .ok s :=
    allow_eq_ok.mpr ⟨rfl, allowed.notTimedOut, allowed.supports⟩
  rcases allowed.inTime with inTime | timedOut
  · rw [load_of_inTime found inTime, permits]
  · rw [load_of_timedOut found timedOut, permits]

theorem load_of_late (found : store.get id = .ok (some s)) (late : s.isExpiredAt env.now = true)
    (live : s.state ≠ .timedOut) :
    load env store id needed = expire env (store.touch id) s := by
  simp [load, peek_eq_ok.mpr found, late, live]

@[simp] theorem expire_result : (expire env store s).result = .error (Refusal.timeoutOf s) := by
  unfold expire
  split <;> rfl

/-- What can come of looking a session up. -/
inductive Load (env : Environment) (store : Store) (id : SessionId) (needed : Option Capability) :
    Access → Prop
  | refused {refusal : Refusal} :
    Load env store id needed { result := .error refusal, store := store.touch id, reports := [] }
  | expired {s : Session} (found : store.get id = .ok (some s))
      (late : s.isExpiredAt env.now = true) (live : s.state ≠ .timedOut) :
      Load env store id needed
        { result := .error (Refusal.timeoutOf s)
          store := (store.touch id).put (s.withState .timedOut)
          reports := [.occurrence s.envelope .timedOut] }
  | allowed {s : Session} (found : store.get id = .ok (some s)) (allowed : Allowed env needed s) :
    Load env store id needed { result := .ok s, store := store.touch id, reports := [] }

theorem load_spec (env : Environment) (store : Store) (id : SessionId)
    (needed : Option Capability) : Load env store id needed (load env store id needed) := by
  unfold load
  cases found : peek store id with
  | error refusal => exact .refused
  | ok s =>
    rw [peek_eq_ok] at found
    by_cases late : s.isExpiredAt env.now = true ∧ s.state ≠ .timedOut
    · simp only [late, not_false_eq_true, ne_eq, and_self, if_true, expire]
      split
      · exact .expired found late.1 late.2
      · exact .refused
    · simp only [late, if_false]
      cases allowed : allow id needed s with
      | error refusal => exact .refused
      | ok s' =>
        obtain ⟨rfl, notTimedOut, supports⟩ := allow_eq_ok.mp allowed
        have inTime : s.isExpiredAt env.now = false ∨ s.state = .timedOut := by
          by_cases passed : s.isExpiredAt env.now = true
          · exact .inr (Decidable.not_not.mp fun live => late ⟨passed, live⟩)
          · exact .inl (Bool.not_eq_true _ ▸ passed)
        exact .allowed found ⟨inTime, notTimedOut, supports⟩

end SignInJourney.Access
