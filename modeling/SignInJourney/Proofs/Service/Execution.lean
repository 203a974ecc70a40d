import SignInJourney.Proofs.Journey.Order
import SignInJourney.Service

/-!
What comes of carrying a handler's conduct out, act by act (`foldl_act`). For an orderly handler it
comes to its decision, all of it or nothing (`execute_of_orderly`).
-/

namespace SignInJourney.Service

variable {env : Environment} {store : Store} {s : Session} {c : Conduct Answer}

theorem foldl_act (acts : List Act) (reply : Reply) :
    acts.foldl (act env) reply =
      { result := reply.result
        store := (acts.filterMap Act.committed?).foldl Store.put reply.store
        events := reply.events ++ events env (acts.filterMap Act.reported?)
        queries := reply.queries ++ acts.filterMap Act.sent? } := by
  induction acts generalizing reply with
  | nil => simp [events]
  | cons a rest ih =>
    rw [List.foldl_cons, ih]
    cases a <;> simp [List.filterMap_cons, act, events, Act.reported?, Act.committed?, Act.sent?]

/-- What a handler comes to is what the operation comes to. -/
@[simp] theorem execute_result : (execute env store c).result = c.result := by
  rw [execute, foldl_act]
  rfl

/-- Carries a decision on a session out. -/
def carryOut (env : Environment) (store : Store) (s : Session) (d : Decision Answer) : Reply :=
  { result := .ok d.answer
    store :=
      match d.next with
      | some state => store.put (s.withState state)
      | none => store
    events := events env d.reports
    queries := d.query.toList.map fun q => (s.id, q) }

/-- What is decided about a session is carried out; without a decision nothing is. -/
def settle (env : Environment) (store : Store) (s : Session)
    (decided : Except Failure (Decision Answer)) : Reply :=
  match decided with
  | .ok d => carryOut env store s d
  | .error f => answer store (.error f)

theorem settle_result {decided : Except Failure (Decision Answer)} :
    (settle env store s decided).result = decided.map (·.answer) := by
  cases decided <;> rfl

/-- A handler that does nothing before it fails leaves the store alone and says nothing. -/
theorem execute_of_failed {f : Failure} (orderly : c.Orderly s.envelope)
    (failed : c.result = .error f) : execute env store c = answer store (.error f) := by
  rw [execute, orderly.untouched f failed, failed]
  rfl

/-- What is done before a failure is not undone: that there is no such thing is for each handler to
see to. -/
example (r : Report) (f : Failure) :
    (execute env store (do Conduct.report r; .fail f)).events = events env [r] :=
  rfl

/-- The one state that a handler commits is of its session, and so is the one query that it sends.
-/
theorem execute_of_orderly (orderly : c.Orderly s.envelope) :
    execute env store c = settle env store s c.decision := by
  cases result : c.result with
  | error f =>
    rw [execute_of_failed orderly result, Conduct.decision_eq_error.mpr result]
    rfl
  | ok a =>
    obtain ⟨next, committed⟩ := orderly.committed
    obtain ⟨query, sent⟩ := orderly.sent
    have decided : c.decision =
        .ok { answer := a, next := next, reports := c.reported, query := query } := by
      rw [Conduct.decision, result, committed, sent]
      cases next <;> cases query <;> rfl
    rw [decided, execute, foldl_act, result]
    show Reply.mk _ (c.committed.foldl Store.put store) _ c.sent = carryOut env store s _
    rw [committed, sent]
    cases next <;> rfl

/-! Opening a session, which comes before there is one to be orderly about. -/

section Open

variable {id : SessionId} {request : AuthnRequest}

theorem createSession_of_fails {f : Failure}
    (fails : Journey.Start.openSession env id request = .error f) :
    createSession env store id request = answer store (.error f) := by
  rw [createSession, Journey.Start.create, fails]
  rfl

/-- A session is stored and then reported, once nothing can fail any more. -/
theorem createSession_of_opens {opening : Journey.Start.Opening}
    (opens : Journey.Start.openSession env id request = .ok opening) :
    createSession env store id request =
      { result := .ok (.session id)
        store := store.put opening.session
        events := events env [opening.report]
        queries := [] } := by
  rw [createSession, Journey.Start.create, opens]
  rfl

end Open

end SignInJourney.Service
