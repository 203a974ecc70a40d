import SignInJourney.Audit.Basic

/-!
The milestones in the audit trail: the event made of a report names the milestone of what occurred,
and names none for any other report (`milestoneName?_ofReport`). The other details that all of these
events have are the envelope's (`detail?_ofReport`).
-/

namespace SignInJourney

/-- The milestone that a report is of, if it is of one. -/
def Report.milestone? : Report → Option Milestone
  | .occurrence _ what => some what.milestone
  | .requestFetched _ _ | .failure _ _ => none

/-- Every event about what occurred has it, whatever did. -/
def DetailKey.isCommon : DetailKey → Bool
  | .sessionEventType | .sessionExpiryTime | .transactionEntityId | .requestId => true
  | _ => false

/-- What occurred has details of its own, and none of them stands for a common one. -/
theorem Occurrence.lookup_details (what : Occurrence) (requestId : String) {key : DetailKey}
    (common : key.isCommon = true) : (what.details requestId).lookup key = none := by
  have four : key = .sessionEventType ∨ key = .sessionExpiryTime ∨ key = .transactionEntityId ∨
      key = .requestId := by
    cases key <;> simp [DetailKey.isCommon] at common ⊢
  rcases four with rfl | rfl | rfl | rfl
  all_goals
    cases what with
    | providerSelected provider levels ip =>
      simp only [details, levelBounds]
      split <;> rfl
    | authnSucceeded success =>
      simp only [details]
      cases success.ipSeenByProvider <;> rfl
    | requesterError message ip => cases message <;> rfl
    | fraudReported notice =>
      simp only [details]
      cases notice.ipSeenByProvider <;> rfl
    | _ => rfl

namespace AuditEvent

variable {service : String} {now : Time.Instant}

/-- The common details of an event are the envelope's, and the milestone. -/
theorem detail?_ofReport (envelope : Envelope) (what : Occurrence) {key : DetailKey}
    (common : key.isCommon = true) :
    (ofReport service now (.occurrence envelope what)).detail? key =
      List.lookup key
        [(.sessionEventType, what.milestone.name),
          (.sessionExpiryTime, envelope.expiry.offsetText),
          (.transactionEntityId, envelope.issuer), (.requestId, envelope.requestId)] := by
  have own := what.lookup_details envelope.requestId common
  simp only [detail?, ofReport, Report.details, List.lookup_append, own, Option.none_or]

theorem milestoneName?_ofReport (r : Report) :
    (ofReport service now r).milestoneName? = r.milestone?.map Milestone.name := by
  cases r with
  | occurrence envelope what =>
    rw [milestoneName?, detail?_ofReport envelope what rfl]
    rfl
  | requestFetched session transaction => rfl
  | failure session message => rfl

def names (e : AuditEvent) (milestone : Milestone) : Bool :=
  e.milestoneName? == some milestone.name

theorem names_ofReport {r : Report} {milestone : Milestone} :
    (ofReport service now r).names milestone = true ↔ r.milestone? = some milestone := by
  rw [names, milestoneName?_ofReport, beq_iff_eq, Option.map_eq_some_iff]
  constructor
  · rintro ⟨other, of, named⟩
    have same : other = milestone := Vocabulary.word_injective named
    rw [of, same]
  · intro of
    exact ⟨_, of, rfl⟩

/-- The session of an event was found past its deadline. -/
def isTimeout (e : AuditEvent) : Bool :=
  e.milestoneName? == some Milestone.sessionTimeout.name

end AuditEvent

end SignInJourney
