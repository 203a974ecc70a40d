import Mathlib.Data.List.Nodup
import SignInJourney.Proofs.Service.Asking

/-!
The hub, a matching service, and a network between them that delays, reorders and repeats answers.
The matching service has one answer to each query and names the request of the query in it. All the
queries of a session name the same request, so an answer tells its query by its status alone:
`Due` has what the hub can take an answer for, and the `Ledger` of a session, which every step keeps
(`ledger_step`), has nothing but that.
-/

namespace SignInJourney

open Service Journey

def Operation.isAnswer : Operation → Bool
  | .matchingResponse _ _ => true
  | _ => false

namespace Network

/-- What a matching service answers to the queries about a session. -/
structure Matcher where
  answer : SessionId → AttributeQuery → MatchingResponse
  echoes : ∀ id q, (answer id q).inResponseTo = q.requestId

/-- Something that happens at the hub, and the query whose answer it brings if it brings one. -/
structure Step where
  moment : Moment
  brings : Option AttributeQuery

/-- The queries that have been sent about a session. -/
def dispatched (id : SessionId) (steps : List Step) : List AttributeQuery :=
  steps.flatMap fun step => step.moment.queries id

/-- What may happen next. The answer to a query may come at any time once the query has been sent,
before or after any other and as often as it will. -/
inductive Possible (matcher : Matcher) (steps : List Step) : Step → Prop
  | operation {m : Moment} (other : m.operation.isAnswer = false) :
    Possible matcher steps { moment := m, brings := none }
  | delivery {m : Moment} {id : SessionId} {q : AttributeQuery} (sent : q ∈ dispatched id steps)
      (operation : m.operation = .matchingResponse id (matcher.answer id q)) :
      Possible matcher steps { moment := m, brings := some q }

/-- What has happened so far and the store that it leaves. -/
inductive Trace (matcher : Matcher) : List Step → Store → Prop
  | start : Trace matcher [] .empty
  | step {steps : List Step} {step : Step} (earlier : Trace matcher steps step.moment.store)
      (fresh : step.moment.operation.Fresh step.moment.store)
      (possible : Possible matcher steps step) :
      Trace matcher (steps ++ [step]) step.moment.reply.store

/-- The step takes the answer to a query for the one that the session waits for at a stage. -/
structure Step.Takes (step : Step) (id : SessionId) (stage : Stage) (q : AttributeQuery) :
    Prop where
  brings : step.brings = some q
  on : step.moment.operation.session = id
  waits : ∃ s family request, step.moment.store.get id = .ok (some s) ∧
    s.state = .matchRequested family stage request
  accepted : ∃ answer, step.moment.reply.result = .ok answer

/-- The answer to a query has been taken while the session waited at a stage. -/
def Taken (id : SessionId) (steps : List Step) (stage : Stage) (q : AttributeQuery) : Prop :=
  ∃ step ∈ steps, step.Takes id stage q

/-- What the answer to a query may be taken for: for the answer to the query that is waited for, and
so it is unless it is the answer of cycle 0/1 that comes again in cycle 3, or the answer of cycle 3
that comes when that has been taken in its place. An answer that somebody was found is no such
exception. -/
inductive Due (matcher : Matcher) (id : SessionId) (steps : List Step) :
    Stage → AttributeQuery → Prop
  | own {q : AttributeQuery} : Due matcher id steps q.stage q
  | again {q : AttributeQuery} (stage : q.stage = .cycle01)
      (unmatched : (matcher.answer id q).status = .unmatched)
      (taken : Taken id steps .cycle01 q) : Due matcher id steps .cycle3 q
  | overtaken {q first : AttributeQuery} (stage : q.stage = .cycle3)
      (notMatched : (matcher.answer id q).status ≠ .matched)
      (notUnmatched : (matcher.answer id q).status ≠ .unmatched)
      (firstStage : first.stage = .cycle01) (taken : Taken id steps .cycle3 first) :
      Due matcher id steps .accountCreation q

variable {matcher : Matcher} {id : SessionId} {steps : List Step} {store : Store}

theorem dispatched_eq (id : SessionId) (steps : List Step) :
    dispatched id steps = (steps.map (·.moment)).flatMap (·.queries id) := by
  rw [dispatched, List.flatMap_map]

theorem dispatched_append (more : List Step) :
    dispatched id (steps ++ more) = dispatched id steps ++ dispatched id more :=
  List.flatMap_append

theorem dispatched_singleton (step : Step) : dispatched id [step] = step.moment.queries id :=
  List.flatMap_singleton ..

theorem taken_append {step : Step} {stage : Stage} {q : AttributeQuery} :
    Taken id (steps ++ [step]) stage q ↔ Taken id steps stage q ∨ step.Takes id stage q := by
  simp only [Taken, List.mem_append, List.mem_singleton, or_and_right, exists_or, exists_eq_left]

theorem Due.append {stage : Stage} {q : AttributeQuery} (due : Due matcher id steps stage q)
    (step : Step) : Due matcher id (steps ++ [step]) stage q := by
  cases due with
  | own => exact .own
  | again stage unmatched taken => exact .again stage unmatched (taken_append.mpr (.inl taken))
  | overtaken stage notMatched notUnmatched firstStage taken =>
    exact .overtaken stage notMatched notUnmatched firstStage (taken_append.mpr (.inl taken))

namespace Trace

/-- What happens at the hub is a run of the service. -/
theorem run (trace : Trace matcher steps store) : Run (steps.map (·.moment)) store := by
  induction trace with
  | start => exact .start
  | @step steps step earlier fresh possible ih =>
    rw [List.map_append, List.map_singleton]
    exact .step ih fresh

variable {s? : Option Session}

/-- A session has been asked about in order, and no further than it has come. -/
theorem inOrder (trace : Trace matcher steps store) (found : store.get id = .ok s?) :
    ((dispatched id steps).map (·.stage)).Sublist (Stage.askedBy (Session.progress s?)) := by
  obtain ⟨s?', stored, asked⟩ := trace.run.holds (P := Asked id) asked_start asked_step
  cases Except.ok.inj (found.symm.trans stored)
  rw [dispatched_eq]
  exact asked.inOrder

theorem rank_le (trace : Trace matcher steps store) (found : store.get id = .ok s?)
    {q : AttributeQuery} (sent : q ∈ dispatched id steps) :
    q.stage.rank ≤ Session.progress s? :=
  Stage.mem_askedBy.mp ((trace.inOrder found).subset (List.mem_map_of_mem sent))

/-- There is one query of a stage at most. -/
theorem eq_of_stage (trace : Trace matcher steps store) (found : store.get id = .ok s?)
    {q q' : AttributeQuery} (sent : q ∈ dispatched id steps) (sent' : q' ∈ dispatched id steps)
    (same : q.stage = q'.stage) : q = q' :=
  List.inj_on_of_nodup_map ((trace.inOrder found).nodup (Stage.nodup_askedBy _)) sent sent' same

end Trace

section Step

variable {m : Moment} {r : MatchingResponse} {answer : Answer}

/-- An answer that is taken is an outcome for the question that the session waits with. -/
theorem outcome_of_accepted (sound : m.store.Sound)
    (operation : m.operation = .matchingResponse id r) (accepted : m.reply.result = .ok answer) :
    ∃ s p d, m.store.get id = .ok (some s) ∧ Matching.pending? s = some p ∧
      Matching.Outcome m.env p r d ∧
      ∀ next, d.next = some next → m.reply.store.get id = .ok (some (s.withState next)) := by
  have needed : m.operation.needed = some .waitingForMatchingServiceResponse := by
    rw [operation]
    rfl
  obtain ⟨s, d, found, _, decides, _, left⟩ := m.decides_of_accepted sound needed accepted
  rw [operation] at found decides left
  cases decides with
  | matchingAnswered waits outcome => exact ⟨s, _, _, found, waits, outcome, left⟩

end Step

/-- A wait for the matching service that does not end the journey has ended with an answer that
nobody was found. -/
theorem unmatched_of_onward {env : Environment} {s : Session} {op : Operation}
    {d : Decision Answer} {next : State} {family : Family} {stage : Stage} {request : MatchRequest}
    (decides : Decides env s op d)
    (supports : ∀ c, op.needed = some c → s.state.supports c = true)
    (waits : s.state = .matchRequested family stage request) (commits : d.next = some next)
    (onward : next.rank ≤ 4) :
    ∃ id r, op = .matchingResponse id r ∧ r.status = .unmatched := by
  have authenticated : s.state.rank ≠ 0 := by
    have asked : s.state.rank = stage.rank := congrArg State.rank waits
    have positive := stage.rank_pos
    omega
  cases decides.proceeds supports authenticated commits with
  | answered _ outcome commits =>
    cases outcome with
    | asksCycle3 status => exact ⟨_, _, rfl, status⟩
    | asksAccount status => exact ⟨_, _, rfl, status⟩
    | accountCreationFailed =>
      cases commits
      refine absurd onward ?_
      cases Matching.Pending.family _ <;> simp [State.rank]
    | _ => cases commits; exact absurd onward (by simp [State.rank])
  | failed => exact absurd onward (by simp [State.rank])
  | submitted asks =>
    rw [(Cycle3.asked?_eq_some.mp asks).2] at waits
    cases waits
  | cancelled => exact absurd onward (by simp [State.rank])

/-- Nobody was found when the session waited at a stage. -/
def Unfound (matcher : Matcher) (id : SessionId) (steps : List Step) (stage : Stage) : Prop :=
  ∃ q, Taken id steps stage q ∧ (matcher.answer id q).status = .unmatched

/-- What has been taken for a session so far: nothing for what it still waits for, one answer a
stage, and none that was not due. A stage that the session has come past without an end has not
found anybody. -/
structure Ledger (matcher : Matcher) (id : SessionId) (steps : List Step) (s? : Option Session) :
    Prop where
  sent : ∀ stage q, Taken id steps stage q → q ∈ dispatched id steps
  done : ∀ stage q, Taken id steps stage q → stage.rank < Session.progress s?
  once : ∀ stage q q', Taken id steps stage q → Taken id steps stage q' → q = q'
  due : ∀ stage q, Taken id steps stage q → Due matcher id steps stage q
  unfound : Session.progress s? ≤ 4 → ∀ q ∈ dispatched id steps,
    q.stage.rank < Session.progress s? → Unfound matcher id steps q.stage

theorem ledger_start : Ledger matcher id [] none := by
  have nothing : ∀ stage q, ¬ Taken id [] stage q := by
    rintro stage q ⟨_, member, _⟩
    exact absurd member List.not_mem_nil
  exact
    { sent := fun stage q taken => absurd taken (nothing stage q)
      done := fun stage q taken => absurd taken (nothing stage q)
      once := fun stage q _ taken => absurd taken (nothing stage q)
      due := fun stage q taken => absurd taken (nothing stage q)
      unfound := fun _ _ sent => absurd sent List.not_mem_nil }

/-- Whatever answer is taken is due. -/
theorem Ledger.due_of_outcome {s : Session} (ledger : Ledger matcher id steps (some s))
    (trace : Trace matcher steps store) (found : store.get id = .ok (some s))
    {q : AttributeQuery} (sent : q ∈ dispatched id steps) {env : Environment} {p : Matching.Pending}
    {d : Decision Unit} (waits : Matching.pending? s = some p)
    (outcome : Matching.Outcome env p (matcher.answer id q) d) :
    Due matcher id steps p.stage q := by
  have progress : Session.progress (some s) = p.stage.rank :=
    congrArg State.rank (Matching.pending?_eq_some.mp waits).2
  have rank := trace.rank_le found sent
  by_cases same : q.stage = p.stage
  · rw [← same]
    exact .own
  have earlier : q.stage.rank < p.stage.rank := by
    have other : q.stage.rank ≠ p.stage.rank := fun h => same (Stage.rank_injective h)
    omega
  have onTheWay := p.stage.rank_le
  -- The session has come past the stage of the query, so nobody was found there.
  obtain ⟨q', taken, unmatched⟩ := ledger.unfound (by omega) q sent (by omega)
  have due := ledger.due q.stage q' taken
  have sent' := ledger.sent q.stage q' taken
  generalize stage : q.stage = earlierStage at due taken earlier
  cases due with
  | own =>
    have same : q = q' := trace.eq_of_stage found sent sent' stage
    subst same
    have early := outcome.stage_ne (.inr unmatched)
    obtain ⟨first, second⟩ := Stage.eq_of_rank_lt earlier early
    rw [first] at taken
    rw [second]
    exact .again first unmatched taken
  | again firstStage =>
    have last : p.stage = .accountCreation := Stage.eq_accountCreation_of_rank_lt earlier
    have notMatched : (matcher.answer id q).status ≠ .matched :=
      fun matched => outcome.stage_ne (.inl matched) last
    have notUnmatched : (matcher.answer id q).status ≠ .unmatched :=
      fun unmatched => outcome.stage_ne (.inr unmatched) last
    rw [last]
    exact .overtaken stage notMatched notUnmatched firstStage taken
  | overtaken => exact absurd earlier (Nat.not_lt_of_le p.stage.rank_le)

variable {step : Step} {s? s?' : Option Session}

/-- A step that takes an answer takes it for a question that the session is done with then. -/
theorem takes_spec (trace : Trace matcher steps step.moment.store)
    (possible : Possible matcher steps step) {stage : Stage} {q : AttributeQuery}
    (takes : step.Takes id stage q) :
    ∃ s p d, step.moment.store.get id = .ok (some s) ∧ Matching.pending? s = some p ∧
      p.stage = stage ∧ q ∈ dispatched id steps ∧
      Matching.Outcome step.moment.env p (matcher.answer id q) d ∧
      ∀ next, d.next = some next →
        step.moment.reply.store.get id = .ok (some (s.withState next)) := by
  obtain ⟨brings, on, ⟨s, family, request, found, waits⟩, ⟨answer, accepted⟩⟩ := takes
  cases possible with
  | operation => cases brings
  | delivery sent operation =>
    cases brings
    rw [operation] at on
    cases on
    obtain ⟨s', p, d, found', pending, outcome, left⟩ :=
      outcome_of_accepted trace.run.sound operation accepted
    cases Except.ok.inj (found.symm.trans found')
    have stands := (Matching.pending?_eq_some.mp pending).2
    rw [waits] at stands
    cases stands
    exact ⟨s, p, d, found, pending, rfl, sent, outcome, left⟩

/-- A session that an answer is taken for waits until then, and does not wait for it afterwards. -/
theorem rank_of_takes (trace : Trace matcher steps step.moment.store)
    (possible : Possible matcher steps step) (found : step.moment.store.get id = .ok s?)
    (stored : step.moment.reply.store.get id = .ok s?') {stage : Stage} {q : AttributeQuery}
    (takes : step.Takes id stage q) :
    Session.progress s? = stage.rank ∧ stage.rank < Session.progress s?' := by
  obtain ⟨s, p, d, found', pending, rfl, _, outcome, left⟩ := takes_spec trace possible takes
  obtain ⟨next, commits⟩ := outcome.commits
  cases Except.ok.inj (found.symm.trans found')
  cases Except.ok.inj (stored.symm.trans (left next commits))
  have stands := (Matching.pending?_eq_some.mp pending).2
  have forward := (outcome.forward commits).rank_lt p.stage.rank_pos
  exact ⟨congrArg State.rank stands, forward⟩

theorem Unfound.append {stage : Stage} (unfound : Unfound matcher id steps stage) (step : Step) :
    Unfound matcher id (steps ++ [step]) stage := by
  obtain ⟨q, taken, unmatched⟩ := unfound
  exact ⟨q, taken_append.mpr (.inl taken), unmatched⟩

/-- A session that comes past a stage without an end has not found anybody there. -/
theorem unfound_of_passed (possible : Possible matcher steps step)
    (found : step.moment.store.get id = .ok s?) (change : Change step.moment id s? s?')
    {stage : Stage} (here : Session.progress s? = stage.rank)
    (past : stage.rank < Session.progress s?') (onward : Session.progress s?' ≤ 4) :
    Unfound matcher id (steps ++ [step]) stage := by
  cases change with
  | idle => omega
  | opens => cases stage <;> cases here
  | expires => exact absurd onward (by simp [Session.progress, State.rank])
  | @commits s d next on allowed decides commits _ result =>
    obtain ⟨family, request, waits⟩ := State.eq_matchRequested_of_rank here
    obtain ⟨session, r, operation, unmatched⟩ :=
      unmatched_of_onward decides allowed.supports waits commits onward
    cases possible with
    | operation other =>
      rw [operation] at other
      cases other
    | @delivery _ _ q _ delivered =>
      rw [operation] at delivered on
      cases delivered
      cases on
      have takes : Step.Takes { moment := _, brings := some q } session stage q :=
        ⟨rfl, by rw [operation]; rfl, ⟨s, family, request, found, waits⟩, ⟨_, result⟩⟩
      exact ⟨q, taken_append.mpr (.inr takes), unmatched⟩

theorem ledger_step (trace : Trace matcher steps step.moment.store)
    (possible : Possible matcher steps step) (found : step.moment.store.get id = .ok s?)
    (stored : step.moment.reply.store.get id = .ok s?') (change : Change step.moment id s? s?')
    (ledger : Ledger matcher id steps s?) : Ledger matcher id (steps ++ [step]) s?' := by
  have gained := change.progress_mono
  constructor
  case sent =>
    intro stage q taken
    rw [dispatched_append, List.mem_append]
    cases taken_append.mp taken with
    | inl earlier => exact .inl (ledger.sent stage q earlier)
    | inr takes =>
      obtain ⟨_, _, _, _, _, _, sent, _⟩ := takes_spec trace possible takes
      exact .inl sent
  case done =>
    intro stage q taken
    cases taken_append.mp taken with
    | inl earlier => exact Nat.lt_of_lt_of_le (ledger.done stage q earlier) gained
    | inr takes => exact (rank_of_takes trace possible found stored takes).2
  case once =>
    intro stage q q' taken taken'
    -- A session that waits at a stage has not taken anything there before.
    have new : ∀ {q q'}, Taken id steps stage q → ¬ step.Takes id stage q' := by
      intro q q' earlier takes
      have before := ledger.done stage q earlier
      have here := (rank_of_takes trace possible found stored takes).1
      omega
    cases taken_append.mp taken with
    | inl earlier =>
      cases taken_append.mp taken' with
      | inl earlier' => exact ledger.once stage q q' earlier earlier'
      | inr takes' => exact absurd takes' (new earlier)
    | inr takes =>
      cases taken_append.mp taken' with
      | inl earlier' => exact absurd takes (new earlier')
      | inr takes' => exact Option.some.inj (takes.brings.symm.trans takes'.brings)
  case due =>
    intro stage q taken
    cases taken_append.mp taken with
    | inl earlier => exact (ledger.due stage q earlier).append step
    | inr takes =>
      obtain ⟨s, p, d, found', pending, rfl, sent, outcome, _⟩ := takes_spec trace possible takes
      cases Except.ok.inj (found.symm.trans found')
      exact (ledger.due_of_outcome trace found sent pending outcome).append step
  case unfound =>
    intro onward q member before
    rw [dispatched_append, dispatched_singleton] at member
    cases List.mem_append.mp member with
    | inl sent =>
      have reached := trace.rank_le found sent
      by_cases here : Session.progress s? = q.stage.rank
      · exact unfound_of_passed possible found change here before onward
      · exact (ledger.unfound (by omega) q sent (by omega)).append step
    | inr new =>
      have reached := change.progress_of_asked new
      omega

theorem Trace.ledger (trace : Trace matcher steps store) (found : store.get id = .ok s?) :
    Ledger matcher id steps s? := by
  induction trace generalizing s? with
  | start =>
    cases Except.ok.inj (found.symm.trans (Store.get_empty id))
    exact ledger_start
  | step earlier fresh possible ih =>
    obtain ⟨before?, before, _⟩ := earlier.run.sound id
    obtain ⟨after?, after, change⟩ := change_of_sound earlier.run.sound fresh before
    cases Except.ok.inj (found.symm.trans after)
    exact ledger_step earlier possible before found change (ih before)

/-- Only the answer of cycle 0/1 is taken twice: there and in cycle 3. -/
theorem Ledger.eq_of_taken_again {stage stage' : Stage} {q : AttributeQuery}
    (ledger : Ledger matcher id steps s?) (here : Session.progress s? = stage.rank)
    (due : Due matcher id steps stage q) (taken : Taken id steps stage' q) :
    stage' = .cycle01 ∧ stage = .cycle3 := by
  have before := ledger.done stage' q taken
  have earlier := ledger.due stage' q taken
  rw [here] at before
  cases due with
  | own =>
    cases earlier with
    | own => exact absurd before (Nat.lt_irrefl _)
    | again stage => rw [stage] at before; exact absurd before (by decide)
    | overtaken stage => rw [stage] at before; exact absurd before (by decide)
  | again => exact Stage.eq_of_rank_lt before (by decide)
  | @overtaken _ first stage _ _ firstStage firstTaken =>
    cases earlier with
    | own =>
      rw [stage] at taken
      have same : q = first := ledger.once .cycle3 q first taken firstTaken
      rw [same, firstStage] at stage
      cases stage
    | again stage' => rw [stage'] at stage; cases stage
    | overtaken => exact absurd before (Nat.lt_irrefl _)

/-- An answer that the hub takes is taken while the session waits for the matching service, with a
query that has been sent and for which no answer has been taken yet. It is the answer to that query,
or else the unmatched answer of cycle 0/1 that comes again in cycle 3, or the answer of cycle 3 that
comes during account creation when the former has been taken in its place. No answer is taken twice
but the one of cycle 0/1, in cycle 3. -/
theorem taken_due (trace : Trace matcher steps store) {q : AttributeQuery}
    (sent : q ∈ dispatched id steps) {env : Environment} {answer : Answer}
    (accepted : (perform env store (.matchingResponse id (matcher.answer id q))).result =
      .ok answer) :
    ∃ s family stage request, store.get id = .ok (some s) ∧
      s.state = .matchRequested family stage request ∧
      (∃ pending ∈ dispatched id steps, pending.Carries s.envelope stage request ∧
        (q.stage = stage → q = pending)) ∧
      Due matcher id steps stage q ∧ (∀ q', ¬ Taken id steps stage q') ∧
      ∀ stage', Taken id steps stage' q → stage' = .cycle01 ∧ stage = .cycle3 := by
  let m : Moment := ⟨env, store, .matchingResponse id (matcher.answer id q)⟩
  obtain ⟨s, p, d, found, waits, outcome, _⟩ :=
    outcome_of_accepted (m := m) trace.run.sound rfl accepted
  have stands := (Matching.pending?_eq_some.mp waits).2
  have here : Session.progress (some s) = p.stage.rank := congrArg State.rank stands
  have ledger := trace.ledger found
  have due := ledger.due_of_outcome trace found sent waits outcome
  obtain ⟨pending, member, carries⟩ := trace.run.sent found s _ _ _ rfl stands
  rw [← dispatched_eq] at member
  refine ⟨s, p.family, p.stage, p.request, found, stands, ⟨pending, member, carries, ?_⟩, due, ?_,
    fun stage' taken => ledger.eq_of_taken_again here due taken⟩
  · intro same
    exact trace.eq_of_stage found sent member (same.trans carries.stage.symm)
  · intro q' taken
    have done := ledger.done p.stage q' taken
    omega

end Network

/-! The sample's journey with a matching service that never finds anybody. -/

namespace Sample

def blind : Network.Matcher :=
  { answer := fun _ q => { unmatched with inResponseTo := q.requestId }
    echoes := fun _ _ => rfl }

/-- The query of cycle 0/1. -/
def firstQuery : AttributeQuery :=
  { stage := .cycle01
    requestId := "request"
    issuer := transaction.id
    consumerUri := "https://transaction.test/answer"
    assertionExpiry := minutesIn 1
    matchingService := matchingService.id
    uri := matchingService.uri
    timeOut := minutesIn 1
    onboarding := false
    level := .two
    persistentId := "user"
    assertions := .domestic "dataset" "statement" "user"
    cycle3Dataset := none
    accountAttributes := none }

/-- The steps up to the first answer. -/
def signingIn : List Network.Step :=
  [⟨opening, none⟩, ⟨choosing, none⟩, ⟨authenticating, none⟩]

/-- The user types something in after the first answer. -/
def typingIn : List Network.Step :=
  signingIn ++ [⟨unmatching, some firstQuery⟩] ++ [⟨submitting, none⟩]

theorem firstQuery_sent : firstQuery ∈ Network.dispatched id signingIn := by
  have first : Network.dispatched id signingIn = [firstQuery] := rfl
  rw [first]
  exact List.mem_singleton_self _

theorem trace_typingIn : Network.Trace blind typingIn submitting.reply.store := by
  have opened : Network.Trace blind [⟨opening, none⟩] opening.reply.store :=
    @Network.Trace.step blind [] ⟨opening, none⟩ .start rfl (.operation rfl)
  have chosen : Network.Trace blind [⟨opening, none⟩, ⟨choosing, none⟩] choosing.reply.store :=
    @Network.Trace.step blind [⟨opening, none⟩] ⟨choosing, none⟩ opened trivial (.operation rfl)
  have authenticated : Network.Trace blind signingIn authenticating.reply.store :=
    @Network.Trace.step blind _ ⟨authenticating, none⟩ chosen trivial (.operation rfl)
  have answered :
      Network.Trace blind (signingIn ++ [⟨unmatching, some firstQuery⟩]) unmatching.reply.store :=
    @Network.Trace.step blind _ ⟨unmatching, some firstQuery⟩ authenticated trivial
      (.delivery firstQuery_sent rfl)
  exact @Network.Trace.step blind _ ⟨submitting, none⟩ answered trivial (.operation rfl)

theorem firstQuery_sent_before : firstQuery ∈ Network.dispatched id typingIn := by
  rw [typingIn, Network.dispatched_append, Network.dispatched_append]
  exact List.mem_append_left _ (List.mem_append_left _ firstQuery_sent)

end Sample

/-- The first answer comes again in cycle 3, and is taken there. -/
theorem sample_taken_due :
    ∃ s request, Sample.submitting.reply.store.get Sample.id = .ok (some s) ∧
      s.state = .matchRequested .domestic .cycle3 request ∧
      Network.Due Sample.blind Sample.id Sample.typingIn .cycle3 Sample.firstQuery := by
  have accepted : (perform Sample.curious Sample.submitting.reply.store
      (.matchingResponse Sample.id (Sample.blind.answer Sample.id Sample.firstQuery))).result =
        .ok .done := rfl
  obtain ⟨s, _, _, _, found, waits, _, due, _⟩ :=
    Network.taken_due Sample.trace_typingIn Sample.firstQuery_sent_before accepted
  cases found
  cases waits
  exact ⟨_, _, rfl, rfl, due⟩

/-- Not every answer that is taken is taken for the one to its own query. -/
theorem repeated_answer_taken :
    ¬ ∀ matcher steps store, Network.Trace matcher steps store → ∀ id,
      ∀ q ∈ Network.dispatched id steps, ∀ env answer,
        (perform env store (.matchingResponse id (matcher.answer id q))).result = .ok answer →
          ∃ s family request, store.get id = .ok (some s) ∧
            s.state = .matchRequested family q.stage request := by
  intro own
  obtain ⟨s, family, request, found, waits⟩ := own _ _ _ Sample.trace_typingIn Sample.id _
    Sample.firstQuery_sent_before Sample.curious .done rfl
  cases found
  cases waits

end SignInJourney
