import Mathlib.Data.List.Forall2
import SignInJourney.Proofs.Service.Families
import SignInJourney.Proofs.Service.Separation
import SignInJourney.Proofs.Service.Stray

/-!
The domestic and the cross-border matching cycle are one machine. `State.Twin` pairs the states of
the two; a handler of the cycle that is given a session and its twin fails for both or decides
`Corresponding` things about them, so the two stay twins, or end in the same state, through every
operation of the cycle (`corresponding_of_cycle`) and through every sequence of them
(`play_corresponding`).
-/

namespace SignInJourney

open Service Journey

/-! ### Two outcomes side by side -/

/-- The kind that a failure is handled by; there is none for what is out of range. -/
def Failure.kind? : Failure → Option String
  | .refused r => some r.kind
  | .outOfRange => none

/-- Both succeed, with related values, or both fail for the same kind of reason. -/
inductive Together {α β : Type} (R : α → β → Prop) : Except Failure α → Except Failure β → Prop
  | ok {a : α} {b : β} (related : R a b) : Together R (.ok a) (.ok b)
  | error {f g : Failure} (kind : f.kind? = g.kind?) : Together R (.error f) (.error g)

namespace Together

variable {α β γ δ : Type} {R : α → β → Prop} {S : γ → δ → Prop} {x : Except Failure α}
  {y : Except Failure β}

theorem bind {f : α → Except Failure γ} {g : β → Except Failure δ} (first : Together R x y)
    (rest : ∀ a b, R a b → Together S (f a) (g b)) : Together S (x >>= f) (y >>= g) := by
  cases first with
  | ok related => exact rest _ _ related
  | error kind => exact .error kind

/-- What both begin with fails for both, or they go on with the same value. -/
theorem bind_same {f : α → Except Failure γ} {g : α → Except Failure δ}
    (rest : ∀ a, Together S (f a) (g a)) : Together S (x >>= f) (x >>= g) := by
  cases x with
  | ok a => exact rest a
  | error f => exact .error rfl

theorem map {f : α → γ} {g : β → δ} (both : Together R x y) (rest : ∀ a b, R a b → S (f a) (g b)) :
    Together S (x.map f) (y.map g) := by
  cases both with
  | ok related => exact .ok (rest _ _ related)
  | error kind => exact .error kind

end Together

/-! ### Twins -/

/-- The same identity with other assertions. -/
def Identity.withAssertions (i : Identity) (assertions : Assertions) : Identity :=
  { i with assertions := assertions }

def MatchRequest.withAssertions (request : MatchRequest) (assertions : Assertions) :
    MatchRequest :=
  { request with identity := request.identity.withAssertions assertions }

/-- A query quotes the persistent id of its assertions. -/
def AttributeQuery.withAssertions (q : AttributeQuery) (assertions : Assertions) :
    AttributeQuery :=
  { q with assertions := assertions, persistentId := assertions.persistentId }

/-- A state of the domestic journey and the one of the cross-border journey that corresponds to it:
both have the same contents, but for the assertions. -/
inductive State.Twin : State → State → Prop
  | matchRequested {stage : Stage} {request : MatchRequest} (assertions : Assertions) :
    Twin (.matchRequested .domestic stage request)
      (.matchRequested .eidas stage (request.withAssertions assertions))
  | awaitingCycle3 {identity : Identity} (assertions : Assertions) :
    Twin (.awaitingCycle3 .domestic identity)
      (.awaitingCycle3 .eidas (identity.withAssertions assertions))
  | matched {outcome : MatchOutcome} : Twin (.matched .domestic outcome) (.matched .eidas outcome)
  | accountCreationFailed {country : String} :
    Twin .accountCreationFailed (.eidasAccountCreationFailed country)

/-- Twins, or the same state of neither family. -/
inductive State.Corresponding : State → State → Prop
  | twins {state twin : State} (twins : state.Twin twin) : Corresponding state twin
  | neutral {state : State} (untold : state.family? = none) : Corresponding state state

structure Session.Twin (s t : Session) : Prop where
  envelope : t.envelope = s.envelope
  state : s.state.Twin t.state

structure Session.Corresponding (s t : Session) : Prop where
  envelope : t.envelope = s.envelope
  state : s.state.Corresponding t.state

theorem Session.Corresponding.id_eq {s t : Session} (same : s.Corresponding t) : t.id = s.id :=
  congrArg Envelope.sessionId same.envelope

theorem Session.Twin.corresponding {s t : Session} (twins : s.Twin t) : s.Corresponding t :=
  ⟨twins.envelope, .twins twins.state⟩

/-- The same query, but for the assertions and the persistent id that goes with them. -/
def AttributeQuery.Corresponding (q r : AttributeQuery) : Prop :=
  ∃ assertions, r = q.withAssertions assertions

structure Decision.Corresponding {α : Type} (d e : Decision α) : Prop where
  answer : e.answer = d.answer
  next : Option.Rel State.Corresponding d.next e.next
  reports : e.reports = d.reports
  query : Option.Rel AttributeQuery.Corresponding d.query e.query

/-- Two stores with corresponding sessions under an id. -/
def Store.Corresponding (id : SessionId) (a b : Store) : Prop :=
  ∃ s t, a.get id = .ok (some s) ∧ b.get id = .ok (some t) ∧ s.Corresponding t ∧ s.id = id

/-- Two replies about the session under an id that differ in its family only. -/
structure Reply.Corresponding (id : SessionId) (a b : Reply) : Prop where
  result : Together Eq a.result b.result
  stored : Store.Corresponding id a.store b.store
  events : b.events = a.events
  queries : List.Forall₂ (fun q r => r.1 = q.1 ∧ q.2.Corresponding r.2) a.queries b.queries

namespace Decision.Corresponding

variable {α β : Type} {d e : Decision α}

theorem reply (answer : α) : Corresponding (.reply answer) (.reply answer : Decision α) :=
  ⟨rfl, .none, rfl, .none⟩

theorem commit {answer : α} {next next' : State} {reports : List Report}
    (states : next.Corresponding next') :
    Corresponding (.commit answer next reports) (.commit answer next' reports) :=
  ⟨rfl, .some states, rfl, .none⟩

theorem ask {answer : α} {next next' : State} {reports : List Report} {q r : AttributeQuery}
    (states : next.Corresponding next') (queries : q.Corresponding r) :
    Corresponding (.ask answer next reports q) (.ask answer next' reports r) :=
  ⟨rfl, .some states, rfl, .some queries⟩

theorem map (f : α → β) (same : d.Corresponding e) : (d.map f).Corresponding (e.map f) :=
  ⟨congrArg f same.answer, same.next, same.reports, same.query⟩

end Decision.Corresponding

namespace State.Corresponding

variable {s t : State}

theorem capabilities_eq (same : s.Corresponding t) : t.capabilities = s.capabilities := by
  cases same with
  | twins twins => cases twins <;> rfl
  | neutral => rfl

theorem timedOut_iff (same : s.Corresponding t) : t = .timedOut ↔ s = .timedOut := by
  cases same with
  | twins twins => cases twins <;> simp
  | neutral => exact Iff.rfl

theorem nextStep?_eq (same : s.Corresponding t) : Answer.nextStep? t = Answer.nextStep? s := by
  cases same with
  | twins twins => cases twins <;> rfl
  | neutral => rfl

end State.Corresponding

/-! ### What the handlers decide -/

theorem AttributeQuery.of?_withAssertions {stage : Stage} {envelope : Envelope}
    {identity : Identity} {endpoint : MatchingEndpoint} {timing : QueryTiming}
    (assertions : Assertions) :
    of? stage envelope (identity.withAssertions assertions) endpoint timing =
      (of? stage envelope identity endpoint timing).map (·.withAssertions assertions) := by
  unfold of?
  cases timing.now.add? timing.assertionLifetime <;> cases timing.now.add? timing.waitPeriod <;> rfl

/-- The same identity is asked about with either bundle of assertions. -/
theorem Environment.together_query (env : Environment) (stage : Stage) (envelope : Envelope)
    (identity : Identity) (assertions : Assertions) :
    Together AttributeQuery.Corresponding (env.query stage envelope identity)
      (env.query stage envelope (identity.withAssertions assertions)) := by
  refine Together.bind_same fun endpoint => ?_
  rw [AttributeQuery.of?_withAssertions]
  cases AttributeQuery.of? stage envelope identity endpoint env.queryTiming with
  | none => exact .error rfl
  | some q => exact .ok ⟨assertions, rfl⟩

namespace Journey

namespace Matching

/-- What the twin of a session waits for. -/
def Pending.abroad (p : Pending) (assertions : Assertions) : Pending :=
  { p with family := .eidas, request := p.request.withAssertions assertions }

def Pending.Twin (p q : Pending) : Prop :=
  p.family = .domestic ∧ ∃ assertions, q = p.abroad assertions

variable {env : Environment} {p : Pending} {r : MatchingResponse}

theorem together_matched (home : p.family = .domestic) (assertions : Assertions) :
    Together Decision.Corresponding (matched p r).decision
      (matched (p.abroad assertions) r).decision := by
  simp only [matched, Conduct.decision_check]
  refine Together.bind_same fun _ => Together.bind_same fun outcome => .ok ?_
  rw [home]
  exact .commit (.twins .matched)

theorem together_requestAccount (home : p.family = .domestic) (assertions : Assertions)
    (attributes : List String) :
    Together Decision.Corresponding (requestAccount env p attributes).decision
      (requestAccount env (p.abroad assertions) attributes).decision := by
  simp only [requestAccount, Conduct.decision_check]
  refine (env.together_query _ _ _ assertions).bind fun q r asked => .ok ?_
  obtain ⟨other, rfl⟩ := asked
  rw [home]
  exact .ask (.twins (.matchRequested _)) ⟨other, rfl⟩

theorem together_createAccountOrEnd (home : p.family = .domestic) (assertions : Assertions)
    (t : Transaction) :
    Together Decision.Corresponding (createAccountOrEnd env p t).decision
      (createAccountOrEnd env (p.abroad assertions) t).decision := by
  unfold createAccountOrEnd
  split
  · exact .ok (.commit (.neutral rfl))
  · exact together_requestAccount home assertions _

theorem together_unmatched (home : p.family = .domestic) (assertions : Assertions) :
    Together Decision.Corresponding (unmatched env p r).decision
      (unmatched env (p.abroad assertions) r).decision := by
  simp only [unmatched, Conduct.decision_check]
  refine Together.bind_same fun _ => Together.bind_same fun t => ?_
  by_cases asks : p.stage = .cycle01 ∧ t.cycle3Attribute.isSome
  · have asksToo : (p.abroad assertions).stage = .cycle01 ∧ t.cycle3Attribute.isSome := asks
    rw [if_pos asks, if_pos asksToo, home]
    exact .ok (.commit (.twins (.awaitingCycle3 _)))
  · have asksNeither : ¬ ((p.abroad assertions).stage = .cycle01 ∧ t.cycle3Attribute.isSome) := asks
    rw [if_neg asks, if_neg asksNeither]
    exact together_createAccountOrEnd home assertions t

theorem together_accountCreated (assertions : Assertions) :
    Together Decision.Corresponding (accountCreated p r).decision
      (accountCreated (p.abroad assertions) r).decision := by
  simp only [accountCreated, Conduct.decision_check]
  exact Together.bind_same fun _ => Together.bind_same fun _ => .ok (.commit (.neutral rfl))

theorem corresponding_withoutAccount (home : p.family = .domestic) (assertions : Assertions) :
    p.withoutAccount.Corresponding (p.abroad assertions).withoutAccount := by
  unfold Pending.withoutAccount
  rw [home]
  exact .commit (.twins .accountCreationFailed)

theorem together_requesterError (assertions : Assertions) :
    Together Decision.Corresponding (requesterError p r).decision
      (requesterError (p.abroad assertions) r).decision := by
  simp only [requesterError, Conduct.decision_check]
  exact Together.bind_same fun _ => .ok ⟨rfl, .some (.neutral rfl), rfl, .none⟩

theorem together_handle {q : Pending} (twins : p.Twin q) :
    Together Decision.Corresponding (handle env p r).decision (handle env q r).decision := by
  obtain ⟨home, assertions, rfl⟩ := twins
  have stage : (p.abroad assertions).stage = p.stage := rfl
  unfold handle
  rw [stage]
  split
  · exact together_matched home assertions
  · exact together_matched home assertions
  · exact together_unmatched home assertions
  · exact together_unmatched home assertions
  · exact together_accountCreated assertions
  · exact .ok (corresponding_withoutAccount home assertions)
  · exact together_requesterError assertions
  · exact .error rfl

theorem corresponding_withoutService {q : Pending} (twins : p.Twin q) :
    p.withoutService.Corresponding q.withoutService := by
  obtain ⟨_, assertions, rfl⟩ := twins
  exact .commit (.neutral rfl)

theorem together_processingDetails {q : Pending} (twins : p.Twin q) :
    Together Decision.Corresponding (processingDetails env p).decision
      (processingDetails env q).decision := by
  obtain ⟨_, assertions, rfl⟩ := twins
  simp only [processingDetails, Conduct.decision_check, Conduct.decision_ite]
  refine Together.bind_same fun deadline => ?_
  split
  · exact .ok (.commit (.neutral rfl))
  · exact .ok (.reply _)

end Matching

namespace Cycle3

/-- The twin of a user who is being asked. -/
def Asked.abroad (a : Asked) (assertions : Assertions) : Asked :=
  { a with family := .eidas, identity := a.identity.withAssertions assertions }

def Asked.Twin (a b : Asked) : Prop :=
  a.family = .domestic ∧ ∃ assertions, b = a.abroad assertions

variable {env : Environment} {a : Asked}

theorem together_submit {b : Asked} (twins : a.Twin b) (input : Cycle3Input) :
    Together Decision.Corresponding (submit env a input).decision
      (submit env b input).decision := by
  obtain ⟨home, assertions, rfl⟩ := twins
  simp only [submit, Conduct.decision_check]
  refine Together.bind_same fun name => ?_
  refine (env.together_query _ _ _ assertions).bind fun q r asked => .ok ?_
  obtain ⟨other, rfl⟩ := asked
  rw [home]
  exact .ask (.twins (.matchRequested _)) ⟨other, rfl⟩

theorem question_eq {b : Asked} (twins : a.Twin b) : question env b = question env a := by
  obtain ⟨_, assertions, rfl⟩ := twins
  rfl

theorem together_cancel {b : Asked} (twins : a.Twin b) :
    Together Decision.Corresponding (cancel a).decision (cancel b).decision := by
  obtain ⟨_, assertions, rfl⟩ := twins
  exact .ok (.commit (.neutral rfl))

end Cycle3

end Journey

namespace Service

section Handlers

variable {env : Environment} {s t : Session}

theorem together_unfit {α : Type} (needed : Capability) :
    Together Decision.Corresponding (unfit s needed : Conduct α).decision
      (unfit t needed : Conduct α).decision :=
  .error rfl

theorem together_map {α : Type} {c d : Conduct α} (name : α → Answer)
    (both : Together Decision.Corresponding c.decision d.decision) :
    Together Decision.Corresponding (c.map name).decision (d.map name).decision := by
  rw [Conduct.decision_map, Conduct.decision_map]
  exact both.map fun _ _ same => same.map name

theorem together_saying {α : Type} (name : α → Answer) (step : Except Failure α) :
    Together Decision.Corresponding (saying name step).decision (saying name step).decision := by
  cases step with
  | ok a => exact .ok (.reply _)
  | error f => exact .error rfl

/-- Corresponding sessions both wait for the matching service, and then they are twins, or neither
does. -/
theorem rel_pending? (same : s.Corresponding t) :
    Option.Rel Matching.Pending.Twin (Matching.pending? s) (Matching.pending? t) := by
  obtain ⟨envelope, state⟩ := s
  obtain ⟨envelope', state'⟩ := t
  obtain ⟨rfl, states⟩ := same
  cases states with
  | twins twins =>
    cases twins with
    | matchRequested assertions => exact .some ⟨rfl, assertions, rfl⟩
    | _ => exact .none
  | neutral untold =>
    cases state with
    | matchRequested => cases untold
    | _ => exact .none

theorem rel_asked? (same : s.Corresponding t) :
    Option.Rel Cycle3.Asked.Twin (Cycle3.asked? s) (Cycle3.asked? t) := by
  obtain ⟨envelope, state⟩ := s
  obtain ⟨envelope', state'⟩ := t
  obtain ⟨rfl, states⟩ := same
  cases states with
  | twins twins =>
    cases twins with
    | awaitingCycle3 assertions => exact .some ⟨rfl, assertions, rfl⟩
    | _ => exact .none
  | neutral untold =>
    cases state with
    | awaitingCycle3 => cases untold
    | _ => exact .none

theorem together_withPending (same : s.Corresponding t)
    {handler : Matching.Pending → Conduct Unit}
    (both : ∀ p q : Matching.Pending, p.Twin q →
      Together Decision.Corresponding (handler p).decision (handler q).decision) :
    Together Decision.Corresponding (withPending s handler).decision
      (withPending t handler).decision := by
  have related := rel_pending? same
  unfold withPending
  generalize Matching.pending? s = waits at related ⊢
  generalize Matching.pending? t = waits' at related ⊢
  cases related with
  | some twins => exact together_map _ (both _ _ twins)
  | none => exact together_unfit _

theorem together_withAsked (same : s.Corresponding t)
    {handler : Cycle3.Asked → Conduct Answer}
    (both : ∀ a b : Cycle3.Asked, a.Twin b →
      Together Decision.Corresponding (handler a).decision (handler b).decision) :
    Together Decision.Corresponding (withAsked s handler).decision
      (withAsked t handler).decision := by
  have related := rel_asked? same
  unfold withAsked
  generalize Cycle3.asked? s = asks at related ⊢
  generalize Cycle3.asked? t = asks' at related ⊢
  cases related with
  | some twins => exact both _ _ twins
  | none => exact together_unfit _

theorem together_processingDetails (same : s.Corresponding t) :
    Together Decision.Corresponding (processingDetails env s).decision
      (processingDetails env t).decision := by
  have related := rel_pending? same
  unfold processingDetails
  generalize Matching.pending? s = waits at related ⊢
  generalize Matching.pending? t = waits' at related ⊢
  cases related with
  | some twins => exact together_map _ (Matching.together_processingDetails twins)
  | none =>
    simp only [Answer.processingDetails, same.state.nextStep?_eq, same.envelope, same.id_eq]
    cases Answer.nextStep? s.state with
    | some step => exact .ok (.reply _)
    | none => exact .error rfl

end Handlers

end Service

/-- Belongs to the matching cycle: what comes from the matching service or from the user it waits
for, and the poll. -/
def Operation.isOfCycle : Operation → Bool
  | .matchingResponse _ _ | .matchingFailure _ | .processingDetails _ | .cycle3Question _
  | .submitCycle3 _ _ | .cancelCycle3 _ => true
  | _ => false

namespace Service

variable {env : Environment} {op : Operation} {s t : Session} {a b : Store}

/-- An operation of the cycle looks its session up and asks a handler that does not tell twins
apart. -/
theorem perform_of_cycle (env : Environment) (cycle : op.isOfCycle = true) :
    ∃ handler : Session → Conduct Answer,
      (∀ store, perform env store op = withSession env store op.session op.needed handler) ∧
        (∀ s, (handler s).Orderly s.envelope) ∧
        ∀ s t, s.Corresponding t →
          Together Decision.Corresponding (handler s).decision (handler t).decision := by
  cases op with
  | matchingResponse id r =>
    exact ⟨_, fun _ => rfl, fun _ => handles_matchingResponse.orderly, fun _ _ same =>
      together_withPending same fun _ _ twins => Matching.together_handle twins⟩
  | matchingFailure id =>
    exact ⟨_, fun _ => rfl, fun _ => (handles_matchingFailure env).orderly, fun _ _ same =>
      together_withPending same fun _ _ twins =>
        .ok (Matching.corresponding_withoutService twins)⟩
  | processingDetails id =>
    exact ⟨_, fun _ => rfl, fun _ => handles_processingDetails.orderly, fun _ _ =>
      together_processingDetails⟩
  | cycle3Question id =>
    refine ⟨_, fun _ => rfl, fun _ => handles_cycle3Question.orderly, fun _ _ same =>
      together_withAsked same fun a b twins => ?_⟩
    rw [Cycle3.question_eq twins]
    exact together_saying _ _
  | submitCycle3 id input =>
    exact ⟨_, fun _ => rfl, fun _ => handles_submitCycle3.orderly, fun _ _ same =>
      together_withAsked same fun _ _ twins =>
        together_map _ (Cycle3.together_submit twins input)⟩
  | cancelCycle3 id =>
    exact ⟨_, fun _ => rfl, fun _ => (handles_cancelCycle3 env).orderly, fun _ _ same =>
      together_withAsked same fun _ _ twins => together_map _ (Cycle3.together_cancel twins)⟩
  | _ => cases cycle

/-- Both sessions are good for an operation, or neither is. -/
theorem allow_or_not (same : s.Corresponding t) (id : SessionId) (needed : Option Capability) :
    (Access.allow id needed s = .ok s ∧ Access.allow id needed t = .ok t) ∨
      ∃ r r', Access.allow id needed s = .error r ∧ Access.allow id needed t = .error r' ∧
        r.kind = r'.kind := by
  have supports : ∀ c, t.state.supports c = s.state.supports c := fun c =>
    congrArg (List.contains · c) same.state.capabilities_eq
  simp only [Access.allow, same.state.timedOut_iff]
  split
  · exact .inr ⟨_, _, rfl, rfl, rfl⟩
  · cases needed with
    | none => exact .inl ⟨rfl, rfl⟩
    | some c =>
      simp only [supports]
      split
      · exact .inl ⟨rfl, rfl⟩
      · exact .inr ⟨_, _, rfl, rfl, rfl⟩

theorem corresponding_put {id : SessionId} (same : s.Corresponding t) (goes : s.id = id)
    {state state' : State} (states : state.Corresponding state') :
    Store.Corresponding id (a.put (s.withState state)) (b.put (t.withState state')) := by
  subst goes
  have states : (s.withState state).Corresponding (t.withState state') := ⟨same.envelope, states⟩
  refine ⟨_, _, a.get_put_self (s.withState state), ?_, states, rfl⟩
  exact states.id_eq ▸ b.get_put_self (t.withState state')

theorem corresponding_touch {id : SessionId} (stores : Store.Corresponding id a b) :
    Store.Corresponding id (a.touch id) (b.touch id) := by
  obtain ⟨s, t, found, found', same, goes⟩ := stores
  exact ⟨s, t, (a.get_touch id id).trans found, (b.get_touch id id).trans found', same, goes⟩

/-- Both are turned away for the deadline, and nobody can tell which of them it was. -/
theorem corresponding_expire (env : Environment) {id : SessionId}
    (stores : Store.Corresponding id a b) (same : s.Corresponding t) (goes : s.id = id) :
    Store.Corresponding id (Access.expire env a s).store (Access.expire env b t).store ∧
      (Access.expire env b t).reports = (Access.expire env a s).reports := by
  unfold Access.expire
  split
  · exact ⟨corresponding_put same goes (.neutral rfl), by rw [same.envelope]⟩
  · exact ⟨stores, rfl⟩

/-- What is decided about corresponding sessions is carried out alike. -/
theorem corresponding_carryOut {id : SessionId} (stores : Store.Corresponding id a b)
    (same : s.Corresponding t) (goes : s.id = id) {d e : Decision Answer}
    (decisions : d.Corresponding e) :
    (carryOut env a s d).Corresponding id (carryOut env b t e) := by
  obtain ⟨answer, next, reports, query⟩ := d
  obtain ⟨answer', next', reports', query'⟩ := e
  obtain ⟨answers, states, told, queries⟩ := decisions
  refine ⟨.ok answers.symm, ?_, congrArg (events env) told, ?_⟩
  · simp only [carryOut]
    cases states with
    | none => exact stores
    | some states => exact corresponding_put same goes states
  · simp only [carryOut]
    cases queries with
    | none => exact .nil
    | some queries => exact .cons ⟨same.id_eq, queries⟩ .nil

theorem corresponding_withSession {id : SessionId} {needed : Option Capability}
    {handler : Session → Conduct Answer} (stores : Store.Corresponding id a b)
    (orderly : ∀ s, (handler s).Orderly s.envelope)
    (decides : ∀ s t, s.Corresponding t →
      Together Decision.Corresponding (handler s).decision (handler t).decision) :
    (withSession env a id needed handler).Corresponding id
      (withSession env b id needed handler) := by
  have seen : Store.Corresponding id (a.touch id) (b.touch id) := corresponding_touch stores
  obtain ⟨s, t, found, found', same, goes⟩ := stores
  have expired : t.isExpiredAt env.now = s.isExpiredAt env.now := by
    rw [Session.isExpiredAt, Session.isExpiredAt, same.envelope]
  by_cases late : s.isExpiredAt env.now = true ∧ s.state ≠ .timedOut
  · have late' : t.isExpiredAt env.now = true ∧ t.state ≠ .timedOut :=
      ⟨expired.trans late.1, fun timedOut => late.2 (same.state.timedOut_iff.mp timedOut)⟩
    obtain ⟨stored, reports⟩ := corresponding_expire env seen same goes
    simp only [withSession, Access.load_of_late found late.1 late.2,
      Access.load_of_late found' late'.1 late'.2, Access.expire_result]
    exact ⟨.error rfl, stored, congrArg (events env) reports, .nil⟩
  · have inTime : ¬ (t.isExpiredAt env.now = true ∧ t.state ≠ .timedOut) := by
      rw [expired, Ne, same.state.timedOut_iff]
      exact late
    rw [withSession, withSession, Access.load_of_not_late found late,
      Access.load_of_not_late found' inTime]
    rcases allow_or_not same id needed with ⟨allowed, allowed'⟩ | ⟨r, r', refused, refused', kind⟩
    · simp only [allowed, allowed', execute_of_orderly (orderly s), execute_of_orderly (orderly t),
        settle]
      have both := decides s t same
      generalize (handler s).decision = x at both ⊢
      generalize (handler t).decision = y at both ⊢
      cases both with
      | ok decisions => exact corresponding_carryOut seen same goes decisions
      | error kind => exact ⟨.error kind, seen, rfl, .nil⟩
    · simp only [refused, refused']
      exact ⟨.error (congrArg some kind), seen, rfl, .nil⟩

/-- An operation of the cycle does not tell twins apart. -/
theorem corresponding_of_cycle {id : SessionId} (cycle : op.isOfCycle = true)
    (on : op.session = id) (stores : Store.Corresponding id a b) :
    (perform env a op).Corresponding id (perform env b op) := by
  obtain ⟨handler, performs, orderly, decides⟩ := perform_of_cycle env cycle
  rw [performs, performs, on]
  exact corresponding_withSession stores orderly decides

end Service

theorem Call.play_corresponding {id : SessionId} {calls : List Call}
    (cycle : ∀ c ∈ calls, c.operation.isOfCycle = true ∧ c.operation.session = id) {a b : Store}
    (stores : Store.Corresponding id a b) :
    List.Forall₂ (fun m n => m.reply.Corresponding id n.reply) (play a calls) (play b calls) := by
  induction calls generalizing a b with
  | nil => exact .nil
  | cons c rest ih =>
    obtain ⟨ofCycle, on⟩ := cycle c List.mem_cons_self
    have replies : (c.moment a).reply.Corresponding id (c.moment b).reply :=
      corresponding_of_cycle ofCycle on stores
    refine .cons replies (ih (fun c' member => ?_) replies.stored)
    exact cycle c' (List.mem_cons_of_mem c member)

/-- A session of the domestic matching cycle and its twin of the cross-border one, each stored under
its id, go through the same under the same directory and clock: an operation of the cycle has equal
results for both or fails for the same kind of reason, leaves twins or the same state of neither
family, reports the same, and asks the same but for the assertions and their persistent id. So it
is with any sequence of operations of the cycle. -/
theorem twins_go_together {a b : Store} {s t : Session} (twins : s.Twin t)
    (found : a.get s.id = .ok (some s)) (found' : b.get s.id = .ok (some t)) :
    (∀ env op, op.isOfCycle = true → op.session = s.id →
      (perform env a op).Corresponding s.id (perform env b op)) ∧
    ∀ calls : List Call,
      (∀ c ∈ calls, c.operation.isOfCycle = true ∧ c.operation.session = s.id) →
      List.Forall₂ (fun m n => m.reply.Corresponding s.id n.reply) (Call.play a calls)
        (Call.play b calls) := by
  have stores : Store.Corresponding s.id a b := ⟨s, t, found, found', twins.corresponding, rfl⟩
  exact ⟨fun _ _ cycle on => corresponding_of_cycle cycle on stores,
    fun _ cycle => Call.play_corresponding cycle stores⟩

/-- The session abroad that is like one at home that waits for an account to be created. -/
def awaitingAccountAbroad : Session :=
  awaitingAccount.withState
    (.matchRequested .eidas .accountCreation
      { identity :=
          { provider := Sample.provider.id
            level := .two
            matchingService := Sample.matchingService.id
            registering := false
            assertions := .eidas "identity" "user abroad" }
        sentAt := Sample.env.now
        cycle3Dataset := none })

/-- The creation fails for both. -/
theorem sample_twins_go_together :
    (perform Sample.env (Store.empty.put awaitingAccount)
        (.matchingResponse Sample.id (elsewhere .accountCreationFailed))).Corresponding Sample.id
      (perform Sample.env (Store.empty.put awaitingAccountAbroad)
        (.matchingResponse Sample.id (elsewhere .accountCreationFailed))) := by
  have twins : awaitingAccount.Twin awaitingAccountAbroad :=
    ⟨rfl, .matchRequested (.eidas "identity" "user abroad")⟩
  exact (twins_go_together twins (Store.get_put_self .empty _) (Store.get_put_self .empty _)).1
    Sample.env _ rfl rfl

end SignInJourney
