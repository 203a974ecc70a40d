import SignInJourney.Proofs.Service.Query
import SignInJourney.Proofs.Service.Refusals
import SignInJourney.Proofs.Store.Map
import SignInJourney.Proofs.Time.Room

/-!
A service from its start on: what its store holds after any operations, sweeps and restarts
(`Served`). The instants in it come of a clock of the present years (`Session.Dated`), so how far
they can be off depends on the policy alone; and an operation runs out of the range of instants only
where its session or the present leaves no room for the policy's times (`perform_ne_outOfRange`).
-/

namespace SignInJourney

open Service Journey Time

namespace Service

variable {env : Environment} {store : Store} {op : Operation}

/-- Where there is room for the session that it is on, an operation does not run out of the range of
instants. -/
theorem perform_ne_outOfRange (room : env.HasRoom)
    (roomFor : ∀ s, store.get op.session = .ok (some s) → env.HasRoomFor s) :
    (perform env store op).result ≠ .error .outOfRange := by
  intro out
  cases timed : op.isTimed with
  | true =>
    obtain ⟨handler, performs, handles⟩ := perform_of_isTimed env timed
    have loaded := Access.load_spec env store op.session op.needed
    rw [performs, withSession] at out
    generalize Access.load env store op.session op.needed = access at loaded out
    cases loaded with
    | refused => cases out
    | expired => cases out
    | @allowed s found =>
      simp only [execute_result] at out
      cases serves : s.serves op with
      | true => exact ((handles s).sound serves).explained.inRange (roomFor s found) out
      | false =>
        rw [(handles s).unfit serves] at out
        cases out
  | false =>
    cases op with
    | createSession id request =>
      rw [perform] at out
      cases opens : Start.openSession env id request with
      | ok opening =>
        rw [createSession_of_opens opens] at out
        cases out
      | error f =>
        rw [createSession_of_fails opens] at out
        cases out
        exact Start.explained_openSession.inRange room opens
    | sessionExists => cases out
    | levelOfAssurance id =>
      simp only [perform, levelOfAssurance, answer] at out
      split at out <;> cases out
    | _ => cases timed

/-- An operation looks a session up, if anything, and puts one, if anything. -/
theorem store_of_perform (env : Environment) (store : Store) (op : Operation) :
    ∃ looked, (looked = store ∨ looked = store.touch op.session) ∧
      ((perform env store op).store = looked ∨
        ∃ s, (perform env store op).store = looked.put s) := by
  cases timed : op.isTimed with
  | true =>
    obtain ⟨handler, performs, handles⟩ := perform_of_isTimed env timed
    have loaded := Access.load_spec env store op.session op.needed
    refine ⟨store.touch op.session, .inr rfl, ?_⟩
    rw [performs, withSession]
    generalize Access.load env store op.session op.needed = access at loaded
    cases loaded with
    | refused => exact .inl rfl
    | expired => exact .inr ⟨_, rfl⟩
    | @allowed s =>
      simp only [execute_of_orderly (handles s).orderly, settle]
      split
      · simp only [carryOut]
        split
        · exact .inr ⟨_, rfl⟩
        · exact .inl rfl
      · exact .inl rfl
  | false =>
    cases op with
    | createSession id request =>
      refine ⟨store, .inl rfl, ?_⟩
      rw [perform]
      cases opens : Start.openSession env id request with
      | error f =>
        rw [createSession_of_fails opens]
        exact .inl rfl
      | ok opening =>
        rw [createSession_of_opens opens]
        exact .inr ⟨_, rfl⟩
    | sessionExists => exact ⟨store, .inl rfl, .inl rfl⟩
    | levelOfAssurance id => exact ⟨store.touch id, .inr rfl, .inl rfl⟩
    | _ => cases timed

end Service

/-! ### Sessions -/

/-- The instants in a session come of a clock of the present years: its deadline is no further off
than the session length, and nothing has been sent later. -/
structure Session.Dated (policy : Policy) (s : Session) : Prop where
  expiry : s.envelope.expiry.seconds ≤ Instant.lastCurrent + policy.sessionLength.seconds
  sentAt : ∀ p, Matching.pending? s = some p → p.request.sentAt.seconds ≤ Instant.lastCurrent

/-- A session that has moved on is dated like before, but for what has been sent since. -/
theorem Session.Dated.withState {policy : Policy} {s : Session} (dated : s.Dated policy)
    {next : State}
    (sentAt : ∀ family stage request, next = .matchRequested family stage request →
      request.sentAt.seconds ≤ Instant.lastCurrent) : (s.withState next).Dated policy := by
  refine ⟨dated.expiry, fun p waits => ?_⟩
  obtain ⟨_, waits⟩ := Matching.pending?_eq_some.mp waits
  exact sentAt _ _ _ waits

theorem dated_of_commits {env : Environment} {s : Session} {op : Operation} {d : Decision Answer}
    {next : State} (decides : Decides env s op d) (commits : d.next = some next)
    (current : env.now.IsCurrent) (dated : s.Dated env.policy) :
    (s.withState next).Dated env.policy := by
  refine dated.withState ?_
  rintro family stage request rfl
  obtain ⟨_, q, asks, _⟩ := decides.asks commits
  rw [(decides.dispatched commits asks).sentAt]
  exact current.seconds_le

/-- Every session in a store is dated. -/
def Store.Dated (store : Store) (policy : Policy) : Prop :=
  ∀ id s, store.get id = .ok (some s) → s.Dated policy

theorem dated_perform {env : Environment} {store : Store} {op : Operation}
    (forward : 0 ≤ env.policy.sessionLength.seconds) (current : env.now.IsCurrent)
    (dated : store.Dated env.policy) : (perform env store op).store.Dated env.policy := by
  have effect := effect_of_perform env store op
  generalize perform env store op = reply at effect ⊢
  intro id t found
  cases effect with
  | opened opens =>
    obtain ⟨_, _, _, expiry, _, _, _, lasts, rfl⟩ := Start.openSession_eq_ok.mp opens
    rw [Store.get_put] at found
    split at found
    · cases found
      have sum := Instant.seconds_add? forward lasts
      have present := current.seconds_le
      refine ⟨?_, fun _ waits => by cases waits⟩
      show expiry.seconds ≤ _
      omega
    · exact dated id t found
  | existence => exact dated id t found
  | level =>
    rw [answer, Store.get_touch] at found
    exact dated id t found
  | failed _ noTrace =>
    rw [noTrace.kept] at found
    exact dated id t found
  | expired before =>
    rw [Store.get_put, Store.get_touch] at found
    split at found
    · cases found
      exact (dated _ _ before).withState fun _ _ _ waits => by cases waits
    · exact dated id t found
  | @decided _ s d before _ decides =>
    cases commits : d.next with
    | none =>
      rw [get_carryOut_of_kept commits] at found
      exact dated id t found
    | some next =>
      rw [get_carryOut commits] at found
      split at found
      · cases found
        exact dated_of_commits decides commits current (dated _ _ before)
      · exact dated id t found

/-! ### The life of a service -/

namespace Store

variable {store : Store}

/-- Whatever is found in a store can be recorded: MessagePack has a form for it. -/
def Storable (store : Store) : Prop :=
  ∀ id s, store.get id = .ok (some s) → MessagePack.fits (toTree s)

theorem storable_empty : empty.Storable :=
  fun _ _ none => nomatch none

theorem Storable.touch (storable : store.Storable) (id : SessionId) :
    (store.touch id).Storable := by
  intro other s found
  rw [get_touch] at found
  exact storable other s found

theorem Storable.put (storable : store.Storable) {s : Session}
    (fits : MessagePack.fits (toTree s)) : (store.put s).Storable := by
  intro id t found
  rw [get_put] at found
  split at found
  · cases found
    exact fits
  · exact storable id t found

end Store

/-- The stores that a service gets to from an empty one, under a policy and a retention period: it
performs operations, whatever the directory is by then, as long as what they put can be recorded; it
loses some of its cache, sweeps and is started again. The clock shows years from 2000 to 9999. -/
inductive Served (policy : Policy) (retention : Span) : Store → Prop
  | start : Served policy retention .empty
  | performed {store : Store} {env : Environment} (op : Operation)
      (served : Served policy retention store) (policed : env.policy = policy)
      (current : env.now.IsCurrent) (storable : (perform env store op).store.Storable) :
      Served policy retention (perform env store op).store
  | forgot {store : Store} (served : Served policy retention store)
      (keep : String → Session → Bool) : Served policy retention (store.forget keep)
  | swept {store : Store} {now : Instant} (served : Served policy retention store)
      (current : now.IsCurrent) : Served policy retention (store.sweep now retention).2
  | reopened {store : Store} {now : Instant} (served : Served policy retention store)
      (current : now.IsCurrent) : Served policy retention (store.reopen now)

theorem Store.Keeps.perform {env : Environment} {store : Store} {op : Operation} {m : SessionMap}
    (keeps : store.Keeps m) (storable : (perform env store op).store.Storable) :
    ∃ m', (Service.perform env store op).store.Keeps m' := by
  obtain ⟨looked, looks, stored⟩ := store_of_perform env store op
  have keeps : looked.Keeps m := by
    rcases looks with rfl | rfl
    · exact keeps
    · exact keeps.touch _
  rcases stored with same | ⟨s, same⟩
  · exact ⟨m, same ▸ keeps⟩
  · rw [same] at storable ⊢
    exact ⟨_, keeps.put (storable s.id s (Store.get_put_self looked s))⟩

/-- A sweep brings no session in. -/
theorem SessionMap.of_swept {m : SessionMap} {now : Instant} {retention : Span} {id : SessionId}
    {s : Session} (found : (m.serve (.sweep now retention)).2 id = some s) : m id = some s := by
  simp only [SessionMap.serve] at found
  split at found
  · exact (Option.filter_eq_some_iff.mp found).1
  · exact found

/-- A served store holds dated sessions, and nothing but sessions. -/
theorem Served.keeps_dated {policy : Policy} {retention : Span} {store : Store}
    (forward : 0 ≤ policy.sessionLength.seconds) (served : Served policy retention store) :
    ∃ m, store.Keeps m ∧ ∀ id s, m id = some s → s.Dated policy := by
  induction served with
  | start => exact ⟨.empty, Store.keeps_empty, fun id s none => nomatch none⟩
  | @performed store env op served policed current storable ih =>
    obtain ⟨m, keeps, dated⟩ := ih
    subst policed
    obtain ⟨m', keeps'⟩ := keeps.perform storable
    have before : store.Dated env.policy := fun id s found =>
      dated id s (Except.ok.inj ((keeps.get_eq id).symm.trans found))
    have after : (perform env store op).store.Dated env.policy :=
      dated_perform forward current before
    exact ⟨m', keeps', fun id s found => after id s (found ▸ keeps'.get_eq id)⟩
  | forgot served keep ih =>
    obtain ⟨m, keeps, dated⟩ := ih
    exact ⟨m, keeps.forget keep, dated⟩
  | @swept store now served current ih =>
    obtain ⟨m, keeps, dated⟩ := ih
    obtain ⟨-, after⟩ := @Store.Keeps.serve store m keeps (.sweep now retention) fun _ puts => by
      cases puts
    exact ⟨_, after, fun id s found => dated id s (SessionMap.of_swept found)⟩
  | reopened served current ih =>
    obtain ⟨m, keeps, dated⟩ := ih
    exact ⟨m, keeps.reopen _, dated⟩

end SignInJourney
