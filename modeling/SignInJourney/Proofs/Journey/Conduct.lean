import SignInJourney.Journey.Basic

/-!
What a handler decides, whatever the order in which it does it: the answer, the state that it
commits, its reports and the query that it sends (`Conduct.decision`). The decision of a handler
follows its steps: one that can fail is passed on (`decision_check`), and what ends it is read off.
-/

namespace SignInJourney

/-- What is decided about an event. -/
structure Decision (α : Type) where
  answer : α
  /-- The state to commit. -/
  next : Option State := none
  reports : List Report := []
  query : Option AttributeQuery := none

namespace Decision

variable {α β : Type}

/-- Answers and does nothing else. -/
def reply (answer : α) : Decision α :=
  { answer := answer }

/-- Commits a state. -/
def commit (answer : α) (next : State) (reports : List Report) : Decision α :=
  { answer := answer, next := some next, reports := reports }

/-- Commits a state and sends the query that it waits for. -/
def ask (answer : α) (next : State) (reports : List Report) (query : AttributeQuery) : Decision α :=
  { answer := answer, next := some next, reports := reports, query := some query }

/-- The same with another answer. -/
def map (f : α → β) (d : Decision α) : Decision β :=
  { answer := f d.answer, next := d.next, reports := d.reports, query := d.query }

end Decision

namespace Act

def reported? : Act → Option Report
  | .report r => some r
  | _ => none

def committed? : Act → Option Session
  | .commit s => some s
  | _ => none

def sent? : Act → Option (SessionId × AttributeQuery)
  | .send id query => some (id, query)
  | _ => none

end Act

namespace Conduct

variable {α β : Type} {envelope : Envelope}

def reported (c : Conduct α) : List Report :=
  c.acts.filterMap Act.reported?

def committed (c : Conduct α) : List Session :=
  c.acts.filterMap Act.committed?

def sent (c : Conduct α) : List (SessionId × AttributeQuery) :=
  c.acts.filterMap Act.sent?

/-- What a handler that answers has decided. -/
def decision (c : Conduct α) : Except Failure (Decision α) :=
  c.result.map fun answer =>
    { answer := answer
      next := c.committed.head?.map (·.state)
      reports := c.reported
      query := c.sent.head?.map (·.2) }

/-- A step that can fail decides nothing by itself. -/
@[simp] theorem decision_check (step : Except Failure α) (f : α → Conduct β) :
    decision (liftM step >>= f) = step >>= fun a => decision (f a) := by
  cases step <;> rfl

@[simp] theorem decision_map (f : α → β) (c : Conduct α) :
    decision (c.map f) = (decision c).map (Decision.map f) := by
  obtain ⟨acts, result⟩ := c
  cases result <;> rfl

@[simp] theorem decision_fail (f : Failure) : decision (fail f : Conduct α) = .error f :=
  rfl

@[simp] theorem decision_ite {p : Prop} [Decidable p] (c d : Conduct α) :
    decision (if p then c else d) = if p then decision c else decision d :=
  apply_ite decision p c d

section ReportAll

variable (reports : List Report) (f : Unit → Conduct α)

theorem reported_reportAll : (reportAll reports >>= f).reported = reports ++ (f ()).reported := by
  induction reports with
  | nil => rfl
  | cons r rest ih => exact congrArg (r :: ·) ih

theorem committed_reportAll : (reportAll reports >>= f).committed = (f ()).committed := by
  induction reports with
  | nil => rfl
  | cons r rest ih => exact ih

theorem sent_reportAll : (reportAll reports >>= f).sent = (f ()).sent := by
  induction reports with
  | nil => rfl
  | cons r rest ih => exact ih

/-- Reports come before what else is decided. -/
theorem decision_reportAll :
    decision (reportAll reports >>= f) =
      (decision (f ())).map fun d => { d with reports := reports ++ d.reports } := by
  have result : (reportAll reports >>= f).result = (f ()).result := rfl
  rw [decision, decision, result, reported_reportAll, committed_reportAll, sent_reportAll]
  cases (f ()).result <;> rfl

end ReportAll

section Endings

variable (reports : List Report) (next : State) (query : AttributeQuery) (answer : α)

/-- Reports, and a state committed after them. -/
@[simp] theorem decision_commit :
    decision (do reportAll reports; moveTo envelope next; return answer) =
      .ok (.commit answer next reports) := by
  rw [decision_reportAll]
  show Except.ok (Decision.commit answer next (reports ++ [])) = _
  rw [List.append_nil]

/-- The same, and the query that the state waits for. -/
@[simp] theorem decision_ask :
    decision (do reportAll reports; moveTo envelope next; send envelope query; return answer) =
      .ok (.ask answer next reports query) := by
  rw [decision_reportAll]
  show Except.ok (Decision.ask answer next (reports ++ []) query) = _
  rw [List.append_nil]

end Endings

theorem decision_eq_error {c : Conduct α} {f : Failure} :
    c.decision = .error f ↔ c.result = .error f := by
  obtain ⟨acts, result⟩ := c
  cases result <;> simp [decision, Except.map]

end Conduct

end SignInJourney
