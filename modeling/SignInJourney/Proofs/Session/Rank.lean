import SignInJourney.Session.Kind

/-!
How far along its journey a state is. A journey that has no authenticated user yet has rank 0, the
stages of the matching cycle follow in order, then come the ends, and a timeout is past everything.
`State.Forward` has the steps that a journey takes; from rank 1 on each of them gains rank
(`Forward.rank_lt`).
-/

namespace SignInJourney

namespace Stage

def rank : Stage → Nat
  | .cycle01 => 1
  | .cycle3 => 3
  | .accountCreation => 4

/-- The questions that a journey of some rank has put to the matching service at most, in order. -/
def askedBy (rank : Nat) : List Stage :=
  [.cycle01, .cycle3, .accountCreation].filter fun stage => stage.rank ≤ rank

theorem rank_le (stage : Stage) : stage.rank ≤ 4 := by
  cases stage <;> decide

theorem rank_pos (stage : Stage) : 1 ≤ stage.rank := by
  cases stage <;> decide

theorem rank_injective {a b : Stage} (h : a.rank = b.rank) : a = b := by
  cases a <;> cases b <;> first
    | rfl
    | cases h

/-- Of two stages in order that are not account creation, one is cycle 0/1 and the other cycle 3. -/
theorem eq_of_rank_lt {a b : Stage} (h : a.rank < b.rank) (early : b ≠ .accountCreation) :
    a = .cycle01 ∧ b = .cycle3 := by
  cases a <;> cases b <;> simp [rank] at h early ⊢

theorem eq_accountCreation_of_rank_lt {b : Stage} (h : cycle3.rank < b.rank) :
    b = .accountCreation := by
  cases b <;> simp [rank] at h ⊢

theorem mem_askedBy {rank : Nat} {stage : Stage} : stage ∈ askedBy rank ↔ stage.rank ≤ rank := by
  cases stage <;> simp [askedBy]

theorem askedBy_sublist (rank : Nat) :
    (askedBy rank).Sublist [.cycle01, .cycle3, .accountCreation] :=
  List.filter_sublist

theorem nodup_askedBy (rank : Nat) : (askedBy rank).Nodup :=
  (askedBy_sublist rank).nodup (by decide)

theorem askedBy_mono {m n : Nat} (h : m ≤ n) : (askedBy m).Sublist (askedBy n) := by
  have within : askedBy m = (askedBy n).filter fun stage => stage.rank ≤ m := by
    rw [askedBy, askedBy, List.filter_filter]
    congr 1
    funext stage
    rw [Bool.eq_iff_iff]
    simp only [Bool.and_eq_true, decide_eq_true_eq]
    omega
  rw [within]
  exact List.filter_sublist

/-- A question of a rank that the journey has not reached yet has not been asked yet. -/
theorem askedBy_append {rank : Nat} {stage : Stage} (h : rank < stage.rank) :
    (askedBy rank ++ [stage]).Sublist (askedBy stage.rank) := by
  revert rank
  cases stage <;> decide

end Stage

namespace Capability

/-- Lets the user choose a provider or a country, or start again. -/
def isChoice : Capability → Bool
  | .idpSelecting | .countrySelecting | .restartJourney => true
  | _ => false

end Capability

namespace State

def rank : State → Nat
  | .sessionStarted _ | .providerSelected _ | .authnFailed _ | .requesterError | .fraudDetected _
  | .registrationPaused | .countrySelected _ | .countryAuthnFailed _ _ => 0
  | .matchRequested _ stage _ => stage.rank
  | .awaitingCycle3 _ _ => 2
  | .cycle3Cancelled | .accountCreated _ | .accountCreationFailed | .eidasAccountCreationFailed _
  | .matched _ _ | .unmatched _ | .nonMatchingSuccess _ | .matchingFailed _ => 5
  | .timedOut => 6

/-- Waits for the user to type cycle-3 data in. -/
def awaitsCycle3 : State → Bool
  | .awaitingCycle3 _ _ => true
  | _ => false

/-- The identity provider or the country that the user has been sent to. -/
def sentTo? : State → Option String
  | .providerSelected sel => some sel.provider
  | .countrySelected sel => some sel.country
  | _ => none

theorem rank_le (s : State) : s.rank ≤ 6 := by
  cases s with
  | matchRequested family stage request => exact Nat.le_trans stage.rank_le (by decide)
  | _ => simp [rank]

theorem rank_eq_six_iff {s : State} : s.rank = 6 ↔ s = .timedOut := by
  cases s with
  | matchRequested family stage request =>
    have onTheWay := stage.rank_le
    simp only [rank, reduceCtorEq, iff_false]
    omega
  | _ => simp [rank]

theorem isTerminal_iff {s : State} : s.isTerminal = true ↔ 5 ≤ s.rank := by
  cases s with
  | matchRequested family stage request =>
    have waits : (matchRequested family stage request).isTerminal = false := rfl
    have onTheWay := stage.rank_le
    simp only [rank, waits, Bool.false_eq_true, false_iff]
    omega
  | _ => simp [rank, isTerminal, capabilities, Capability.isProgress]

/-- A state has the rank of a stage only while it waits for the answer to its question. -/
theorem eq_matchRequested_of_rank {s : State} {stage : Stage} (h : s.rank = stage.rank) :
    ∃ family request, s = .matchRequested family stage request := by
  cases s with
  | matchRequested family stage' request =>
    cases Stage.rank_injective h
    exact ⟨family, request, rfl⟩
  | _ => cases stage <;> cases h

theorem awaitsCycle3_iff {s : State} : s.awaitsCycle3 = true ↔ s.rank = 2 := by
  cases s with
  | matchRequested family stage request => cases stage <;> simp [awaitsCycle3, rank, Stage.rank]
  | _ => simp [awaitsCycle3, rank]

/-- Once the user has been authenticated there is nothing to choose any more. -/
theorem rank_eq_zero_of_supports {s : State} {c : Capability} (choice : c.isChoice = true)
    (h : s.supports c = true) : s.rank = 0 := by
  cases s <;> first
    | rfl
    | cases c <;> simp [supports, capabilities, Capability.isChoice] at h choice

/-- The steps of a journey, each with the question that it puts to the matching service. -/
inductive Forward : State → Option Stage → State → Prop
  | choosing {before after : State} (unsettled : before.rank = 0) (still : after.rank = 0) :
    Forward before none after
  | asking {before : State} {family : Family} {stage : Stage} {request : MatchRequest}
      (new : before.rank < stage.rank) :
      Forward before (some stage) (.matchRequested family stage request)
  | awaiting {family : Family} {request : MatchRequest} {identity : Identity} :
    Forward (.matchRequested family .cycle01 request) none (.awaitingCycle3 family identity)
  | ending {before after : State} (onTheWay : before.rank < 5) (ends : after.rank = 5) :
    Forward before none after

namespace Forward

variable {before after : State} {asked : Option Stage}

theorem rank_lt (h : Forward before asked after) (authenticated : 1 ≤ before.rank) :
    before.rank < after.rank := by
  cases h with
  | choosing unsettled => omega
  | asking new => exact new
  | awaiting => exact Nat.lt_add_one 1
  | ending onTheWay ends => omega

theorem rank_mono (h : Forward before asked after) : before.rank ≤ after.rank := by
  cases Nat.eq_zero_or_pos before.rank with
  | inl unsettled => omega
  | inr authenticated => exact Nat.le_of_lt (h.rank_lt authenticated)

/-- The ends of a journey are not left for another state of it. -/
theorem rank_lt_five (h : Forward before asked after) : before.rank < 5 := by
  cases h with
  | choosing unsettled => omega
  | @asking _ _ stage _ new => exact Nat.lt_of_lt_of_le new (Nat.le_succ_of_le stage.rank_le)
  | awaiting => show 1 < 5; decide
  | ending onTheWay => exact onTheWay

/-- A question that is put leaves the state waiting for its answer. -/
theorem eq_matchRequested {stage : Stage} (h : Forward before (some stage) after) :
    ∃ family request, after = .matchRequested family stage request := by
  cases h with
  | asking => exact ⟨_, _, rfl⟩

/-- No state waits for the answer to a question before it is put. -/
theorem ne_of_asked {stage : Stage} (h : Forward before (some stage) after) : before ≠ after := by
  cases h with
  | asking new =>
    rintro rfl
    exact absurd new (Nat.lt_irrefl _)

/-- What has been asked stays in order. -/
theorem askedBy (h : Forward before asked after) :
    (Stage.askedBy before.rank ++ asked.toList).Sublist (Stage.askedBy after.rank) := by
  have gained := Stage.askedBy_mono h.rank_mono
  cases h with
  | asking new => exact Stage.askedBy_append new
  | _ =>
    rw [Option.toList_none, List.append_nil]
    exact gained

end Forward

end State

end SignInJourney
