import SignInJourney.Journey.Cycle3
import SignInJourney.Journey.Matching
import SignInJourney.Proofs.Journey.Checks
import SignInJourney.Proofs.Journey.Conduct

/-!
The matching cycle as relations: what the matching service's answers lead to (`Outcome`,
`outcome_of_handle`), what a poll leads to (`processingDetails_eq_ok`), and what submitting
cycle-3 data does (`submit_eq_ok`).
-/

namespace SignInJourney.Journey

namespace Matching

variable {env : Environment} {p : Pending} {r : MatchingResponse}

theorem pending?_eq_some {s : Session} {p : Pending} :
    pending? s = some p ↔
      s.envelope = p.envelope ∧ s.state = .matchRequested p.family p.stage p.request := by
  obtain ⟨envelope, state⟩ := s
  cases state with
  | matchRequested family stage request =>
    cases p
    simp [pending?]
  | _ => simp [pending?]

/-- The answer comes from the matching service that was asked and is to the request. -/
structure Answers (p : Pending) (r : MatchingResponse) : Prop where
  issuer : r.issuer = p.identity.matchingService
  inResponseTo : r.inResponseTo = p.envelope.requestId

theorem checkResponse_eq_ok {u : Unit} : checkResponse p r = .ok u ↔ Answers p r := by
  rw [checkResponse, Failure.ofInvalidity_eq_ok, Check.matchingResponse_eq_ok]
  exact ⟨fun h => ⟨h.1, h.2⟩, fun h => ⟨h.issuer, h.inResponseTo⟩⟩

/-- The check of an answer fails in one way only. -/
theorem checkResponse_of_not_answers (stray : ¬ Answers p r) :
    ∃ cause, checkResponse p r = .error (.refused (.invalid cause)) := by
  unfold checkResponse
  cases checked : Check.matchingResponse p.envelope.requestId p.identity.matchingService r.issuer
      r.inResponseTo with
  | ok u =>
    have answers := Check.matchingResponse_eq_ok.mp checked
    exact absurd ⟨answers.1, answers.2⟩ stray
  | error cause => exact ⟨cause, rfl⟩

/-- The outcome that an assertion about the identity makes. -/
def Pending.outcome (p : Pending) (assertion : String) : MatchOutcome :=
  { provider := p.identity.provider
    assertion := assertion
    level := p.identity.level
    registering := p.identity.registering }

theorem outcome_eq_ok {o : MatchOutcome} :
    outcome p r = .ok o ↔
      r.level = some p.identity.level ∧ ∃ assertion, r.assertion = some assertion ∧
        o = p.outcome assertion := by
  simp only [outcome, bind_eq_ok, Failure.ofInvalidity_eq_ok, Check.level_eq_ok,
    Check.mandatory_eq_ok, Except.ok.injEq, Pending.outcome]
  constructor
  · rintro ⟨_, level, assertion, given, rfl⟩
    exact ⟨level, assertion, given, rfl⟩
  · rintro ⟨level, assertion, given, rfl⟩
    exact ⟨(), level, assertion, given, rfl⟩

/-- Nobody was found, and no cycle-3 data are asked for: the session is out of cycle 0/1, or the
transaction has no attribute to ask for. -/
def PastCycle3 (p : Pending) (t : Transaction) : Prop :=
  p.stage ≠ .cycle01 ∨ t.cycle3Attribute = none

def matchedIn : Stage → Occurrence
  | .cycle3 => .cycle3Matched
  | .cycle01 | .accountCreation => .cycle01Matched

def unmatchedIn : Stage → Occurrence
  | .cycle3 => .cycle3Unmatched
  | .cycle01 | .accountCreation => .cycle01Unmatched

/-- What is decided when there is to be no account. -/
def Pending.withoutAccount (p : Pending) : Decision Unit :=
  .commit ()
    (match p.family with
    | .domestic => .accountCreationFailed
    | .eidas => .eidasAccountCreationFailed p.identity.provider)
    [.occurrence p.envelope .accountCreationFailed]

theorem decision_accountCreationFailed :
    (accountCreationFailed p).decision = .ok p.withoutAccount :=
  rfl

/-- What is decided when the service is of no use. -/
def Pending.withoutService (p : Pending) : Decision Unit :=
  .commit () (.matchingFailed p.identity.provider) []

theorem decision_fail : (fail p).decision = .ok p.withoutService :=
  rfl

/-- What is decided about an answer. -/
inductive Outcome (env : Environment) (p : Pending) (r : MatchingResponse) :
    Decision Unit → Prop
  | matched {assertion : String} (status : r.status = .matched) (stage : p.stage ≠ .accountCreation)
      (answers : Answers p r) (level : r.level = some p.identity.level)
      (given : r.assertion = some assertion) :
      Outcome env p r
        (.commit () (.matched p.family (p.outcome assertion))
          [.occurrence p.envelope (matchedIn p.stage)])
  | asksCycle3 {t : Transaction} (status : r.status = .unmatched) (stage : p.stage = .cycle01)
      (answers : Answers p r) (transaction : env.directory.transaction p.envelope.issuer = .ok t)
      (named : t.cycle3Attribute.isSome) :
      Outcome env p r
        (.commit () (.awaitingCycle3 p.family p.identity) [.occurrence p.envelope .cycle3Asked])
  | asksAccount {t : Transaction} {query : AttributeQuery} (status : r.status = .unmatched)
      (stage : p.stage ≠ .accountCreation) (answers : Answers p r)
      (transaction : env.directory.transaction p.envelope.issuer = .ok t)
      (past : PastCycle3 p t) (wanted : t.accountAttributes ≠ [])
      (asks : env.query .accountCreation p.envelope p.identity = .ok query) :
      Outcome env p r
        (.ask () (.matchRequested p.family .accountCreation { p.request with sentAt := env.now })
          [.occurrence p.envelope .accountCreationRequested]
          ((query.withCycle3Dataset p.request.cycle3Dataset).withAccountAttributes
            t.accountAttributes))
  | unmatched {t : Transaction} (status : r.status = .unmatched)
      (stage : p.stage ≠ .accountCreation) (answers : Answers p r)
      (transaction : env.directory.transaction p.envelope.issuer = .ok t)
      (past : PastCycle3 p t) (unwanted : t.accountAttributes = []) :
      Outcome env p r
        (.commit () (.unmatched p.identity.provider)
          [.occurrence p.envelope (unmatchedIn p.stage)])
  | accountCreated {assertion : String} (status : r.status = .accountCreated)
      (stage : p.stage = .accountCreation) (answers : Answers p r)
      (level : r.level = some p.identity.level) (given : r.assertion = some assertion) :
      Outcome env p r
        (.commit () (.accountCreated (p.outcome assertion))
          [.occurrence p.envelope .accountCreated])
  | accountCreationFailed (status : r.status = .accountCreationFailed)
      (stage : p.stage = .accountCreation) :
      Outcome env p r p.withoutAccount
  | requesterError (status : r.status = .requesterError) (answers : Answers p r) :
      Outcome env p r
        { p.withoutService with
          reports := [.failure p.envelope.sessionId "Matching service returned requester error"] }

/-- No outcome leaves the session waiting as it was. -/
theorem Outcome.commits {d : Decision Unit} (outcome : Outcome env p r d) :
    ∃ next, d.next = some next := by
  cases outcome <;> exact ⟨_, rfl⟩

/-- Whether somebody was found is no answer to a question for an account. -/
theorem Outcome.stage_ne {d : Decision Unit} (outcome : Outcome env p r d)
    (searched : r.status = .matched ∨ r.status = .unmatched) : p.stage ≠ .accountCreation := by
  cases outcome with
  | matched _ stage => exact stage
  | asksCycle3 _ stage => rw [stage]; simp
  | asksAccount _ stage => exact stage
  | unmatched _ stage => exact stage
  | accountCreated status => simp [status] at searched
  | accountCreationFailed status => simp [status] at searched
  | requesterError status => simp [status] at searched

theorem outcome_of_matched {d : Decision Unit} (status : r.status = .matched)
    (stage : p.stage ≠ .accountCreation) (h : (matched p r).decision = .ok d) :
    Outcome env p r d := by
  simp only [matched, Conduct.decision_check, bind_eq_ok, checkResponse_eq_ok, outcome_eq_ok] at h
  obtain ⟨_, answers, _, ⟨level, assertion, given, rfl⟩, h⟩ := h
  cases h
  exact .matched status stage answers level given

theorem outcome_of_unmatched {d : Decision Unit} (status : r.status = .unmatched)
    (stage : p.stage ≠ .accountCreation) (h : (unmatched env p r).decision = .ok d) :
    Outcome env p r d := by
  simp only [unmatched, Conduct.decision_check, Conduct.decision_ite, bind_eq_ok,
    checkResponse_eq_ok, Failure.ofDirectory_eq_ok] at h
  obtain ⟨_, answers, t, transaction, h⟩ := h
  split at h
  · rename_i asked
    cases h
    exact .asksCycle3 status asked.1 answers transaction asked.2
  · rename_i notAsked
    have past : PastCycle3 p t := by
      simpa [PastCycle3, Decidable.imp_iff_not_or] using notAsked
    rw [createAccountOrEnd, Conduct.decision_ite] at h
    split at h
    · rename_i unwanted
      cases h
      exact .unmatched status stage answers transaction past (List.isEmpty_iff.mp unwanted)
    · rename_i wanted
      simp only [requestAccount, Conduct.decision_check, bind_eq_ok] at h
      obtain ⟨query, asks, h⟩ := h
      cases h
      exact .asksAccount status stage answers transaction past
        (fun none => wanted (List.isEmpty_iff.mpr none)) asks

theorem outcome_of_handle {d : Decision Unit} (h : (handle env p r).decision = .ok d) :
    Outcome env p r d := by
  unfold handle at h
  split at h
  · rename_i status stage
    exact outcome_of_matched status (by simp [stage]) h
  · rename_i status stage
    exact outcome_of_matched status (by simp [stage]) h
  · rename_i status stage
    exact outcome_of_unmatched status (by simp [stage]) h
  · rename_i status stage
    exact outcome_of_unmatched status (by simp [stage]) h
  · rename_i status stage
    simp only [accountCreated, Conduct.decision_check, bind_eq_ok, checkResponse_eq_ok,
      outcome_eq_ok] at h
    obtain ⟨_, answers, _, ⟨level, assertion, given, rfl⟩, h⟩ := h
    cases h
    exact .accountCreated status stage answers level given
  · rename_i status stage
    rw [decision_accountCreationFailed] at h
    cases h
    exact .accountCreationFailed status stage
  · rename_i status
    simp only [requesterError, Conduct.decision_check, bind_eq_ok, checkResponse_eq_ok] at h
    obtain ⟨_, answers, h⟩ := h
    cases h
    exact .requesterError status answers
  · cases h

/-- The one answer that is taken from anyone, and to any request. -/
def IsUnchecked (p : Pending) (r : MatchingResponse) : Prop :=
  r.status = .accountCreationFailed ∧ p.stage = .accountCreation

theorem handle_of_isUnchecked (h : IsUnchecked p r) :
    handle env p r = accountCreationFailed p := by
  unfold handle
  rw [h.1, h.2]

/-- Every other answer that is not the matching service's own to the request is refused. -/
theorem handle_of_not_answers (stray : ¬ Answers p r) (checked : ¬ IsUnchecked p r) :
    ∃ cause, (handle env p r).decision = .error (.refused (.invalid cause)) := by
  obtain ⟨cause, refused⟩ := checkResponse_of_not_answers stray
  unfold handle
  split
  · exact ⟨cause, by rw [matched, refused]; rfl⟩
  · exact ⟨cause, by rw [matched, refused]; rfl⟩
  · exact ⟨cause, by rw [unmatched, refused]; rfl⟩
  · exact ⟨cause, by rw [unmatched, refused]; rfl⟩
  · exact ⟨cause, by rw [accountCreated, refused]; rfl⟩
  · rename_i status stage
    exact absurd ⟨status, stage⟩ checked
  · exact ⟨cause, by rw [requesterError, refused]; rfl⟩
  · exact ⟨_, rfl⟩

/-- The next step of a session that waits, as its front end is told it. -/
def Pending.details (p : Pending) (step : NextStep) : ProcessingDetails :=
  { session := p.envelope.sessionId, step := step, transaction := p.envelope.issuer }

/-- A poll is told to wait until the wait period is over, and then the session gives up. -/
theorem processingDetails_eq_ok {d : Decision ProcessingDetails} :
    (processingDetails env p).decision = .ok d ↔
      ∃ deadline, p.request.sentAt.add? env.policy.waitPeriod = some deadline ∧
        d = if deadline < env.now then
            p.withoutService.map fun _ => p.details .showMatchingErrorPage
          else .reply (p.details .wait) := by
  simp only [processingDetails, Conduct.decision_check, Conduct.decision_ite, bind_eq_ok,
    Failure.inRange_eq_ok]
  refine exists_congr fun deadline => and_congr_right fun _ => ?_
  split <;> exact ok_eq_ok

end Matching

namespace Cycle3

variable {env : Environment} {a : Asked}

theorem asked?_eq_some {s : Session} {a : Asked} :
    asked? s = some a ↔
      s.envelope = a.envelope ∧ s.state = .awaitingCycle3 a.family a.identity := by
  obtain ⟨envelope, state⟩ := s
  cases state with
  | awaitingCycle3 family identity =>
    cases a
    simp [asked?]
  | _ => simp [asked?]

/-- The request that goes with submitted data. -/
def request (env : Environment) (a : Asked) (dataset : Cycle3Dataset) : MatchRequest :=
  { identity := a.identity, sentAt := env.now, cycle3Dataset := some dataset }

theorem submit_eq_ok {input : Cycle3Input} {d : Decision Unit} :
    (submit env a input).decision = .ok d ↔
      ∃ name query, attributeName env a = .ok name ∧
        env.query .cycle3 a.envelope a.identity = .ok query ∧
        d = .ask () (.matchRequested a.family .cycle3 (request env a (.single name input.value)))
          [.occurrence a.envelope (.cycle3Submitted input.ip)]
          (query.withCycle3Dataset (some (.single name input.value))) := by
  simp only [submit, Conduct.decision_check, bind_eq_ok]
  constructor
  · rintro ⟨name, named, query, asks, h⟩
    cases h
    exact ⟨name, query, named, asks, rfl⟩
  · rintro ⟨name, query, named, asks, rfl⟩
    exact ⟨name, named, query, asks, rfl⟩

end Cycle3

end SignInJourney.Journey
