import SignInJourney.Proofs.Service.Billing
import SignInJourney.Proofs.Service.Refusals

/-!
What the front end is told about an answer. The action for it describes the transition that the
answer leads to (`ResponseAction.Describes`): whether the user registers, the level that was
achieved, and how the authentication ended (`action_describes_commit`).
-/

namespace SignInJourney

open Service Journey

/-- With an identity provider to register; nobody registers with a country. -/
@[simp] def State.registers : State → Bool
  | .providerSelected sel => sel.registering
  | _ => false

namespace Operation

/-- The level that the answer of a provider or country names. -/
@[simp] def namedLevel? : Operation → Option Level
  | .providerResponse _ r => r.level
  | .countryResponse _ r => r.level
  | _ => none

/-- An identity provider answers with a status, and does not report fraud. -/
@[simp] def Says (status : ProviderStatus) : Operation → Prop
  | .providerResponse _ r => r.isFraudulent = false ∧ r.status = status
  | _ => False

end Operation

/-- An action for the front end says what has been decided about the answer of a party. -/
structure ResponseAction.Describes (a : ResponseAction) (s : Session) (op : Operation)
    (next : State) : Prop where
  session : a.session = s.id
  /-- A pause is taken for a pause of a registration. -/
  registering : a.registering = (s.state.registers || a.result = .pending)
  achieved : a.achieved = if next.isAuthenticated then op.namedLevel? else none
  named : next.isAuthenticated = true → op.namedLevel?.isSome = true
  asked : ∀ family request, next = .matchRequested family .cycle01 request →
    a.achieved = some request.identity.level
  matching : a.result = .matchingJourneySuccess ↔
    ∃ request, next = .matchRequested .domestic .cycle01 request
  success : a.result = .success ↔ ∃ request, next = .matchRequested .eidas .cycle01 request
  nonMatching : a.result = .nonMatchingJourneySuccess ↔
    ∃ assertions, next = .nonMatchingSuccess assertions
  pending : a.result = .pending ↔ next = .registrationPaused
  cancel : a.result = .cancel ↔ op.Says .authenticationCancelled
  failedUplift : a.result = .failedUplift ↔ op.Says .upliftFailed
  givenUp : a.result = .cancel ∨ a.result = .failedUplift →
    if s.state.registers then ∃ provider, next = .authnFailed provider
    else ∃ providers, next = .sessionStarted providers
  other : a.result = .other ↔ next.isAuthenticated = false ∧ next ≠ .registrationPaused ∧
    ¬ op.Says .authenticationCancelled ∧ ¬ op.Says .upliftFailed

section Outcomes

variable {env : Environment} {s : Session} {id : SessionId} {d : Decision ResponseAction}

theorem describes_of_provider {sel : ProviderSelection} {r : ProviderResponse}
    (stands : s.state = .providerSelected sel)
    (outcome : ProviderResponse.Outcome env s.envelope sel r d) :
    ∃ next, d.next = some next ∧ d.answer.Describes s (.providerResponse id r) next := by
  cases outcome with
  | matching genuine status succeeds =>
    refine ⟨_, rfl, ?_⟩
    constructor <;>
      simp [Decision.ask, ResponseAction.matchingJourneySuccess, State.isAuthenticated, Session.id,
        ProviderResponse.identity, stands, status, succeeds.level]
  | nonMatching genuine status succeeds =>
    refine ⟨_, rfl, ?_⟩
    constructor <;>
      simp [Decision.commit, ResponseAction.nonMatchingJourneySuccess, State.isAuthenticated,
        Session.id, stands, status, succeeds.level]
  | noContextRegistering genuine without admitted registering =>
    refine ⟨_, rfl, ?_⟩
    generalize status : r.status = answered at without
    cases without <;> constructor <;>
      simp [Decision.commit, ResponseAction.other, ResponseAction.cancel,
        ResponseAction.failedUplift, State.isAuthenticated, Session.id, stands, genuine, status,
        registering]
  | noContextSigningIn genuine without admitted signingIn start =>
    obtain ⟨t, _, rfl⟩ := Environment.startState_eq_ok.mp start
    refine ⟨_, rfl, ?_⟩
    generalize status : r.status = answered at without
    cases without <;> constructor <;>
      simp [Decision.commit, ResponseAction.other, ResponseAction.cancel,
        ResponseAction.failedUplift, State.isAuthenticated, Session.id, stands, genuine, status,
        signingIn]
  | authnFailed genuine status =>
    refine ⟨_, rfl, ?_⟩
    constructor <;>
      simp [Decision.commit, ResponseAction.other, State.isAuthenticated, Session.id, stands,
        status]
  | requesterError genuine status =>
    refine ⟨_, rfl, ?_⟩
    constructor <;>
      simp [Decision.commit, ResponseAction.other, State.isAuthenticated, Session.id, stands,
        status]
  | paused genuine status =>
    refine ⟨_, rfl, ?_⟩
    constructor <;>
      simp [Decision.commit, ResponseAction.pending, State.isAuthenticated, Session.id, status]
  | fraud fraudulent =>
    refine ⟨_, rfl, ?_⟩
    constructor <;>
      simp [Decision.commit, ResponseAction.other, State.isAuthenticated, Session.id, stands,
        fraudulent]

theorem describes_of_country {sel : CountrySelection} {r : CountryResponse}
    (stands : s.state = .countrySelected sel)
    (outcome : Country.Outcome env s.envelope sel r d) :
    ∃ next, d.next = some next ∧ d.answer.Describes s (.countryResponse id r) next := by
  cases outcome with
  | matching _ _ status succeeds =>
    refine ⟨_, rfl, ?_⟩
    constructor <;>
      simp [Decision.ask, ResponseAction.success, State.isAuthenticated, Session.id,
        Country.identity, stands, succeeds.level]
  | nonMatching _ _ status succeeds =>
    refine ⟨_, rfl, ?_⟩
    constructor <;>
      simp [Decision.commit, ResponseAction.nonMatchingJourneySuccess, State.isAuthenticated,
        Session.id, stands, succeeds.level]
  | authnFailed =>
    refine ⟨_, rfl, ?_⟩
    constructor <;>
      simp [Decision.commit, ResponseAction.other, State.isAuthenticated, Session.id, stands]

end Outcomes

/-- An accepted answer of a provider or country moves its session on, and the action that it is
answered with describes the state that is committed. -/
theorem action_describes_commit {env : Environment} {store : Store} {op : Operation} {s : Session}
    {answer : Answer} (found : store.get op.session = .ok (some s))
    (party : op.isPartyAnswer = true) (accepted : (perform env store op).result = .ok answer) :
    ∃ a next, answer = .action a ∧
      (perform env store op).store.get s.id = .ok (some (s.withState next)) ∧
      a.Describes s op next := by
  have needed : ∃ c, op.needed = some c := by
    cases op with
    | providerResponse | countryResponse => exact ⟨_, rfl⟩
    | _ => cases party
  obtain ⟨c, needed⟩ := needed
  obtain ⟨s', d, found', _, decides, rfl, performs⟩ := decided_of_accepted needed accepted
  cases found.symm.trans found'
  have described : ∃ d' : Decision ResponseAction, d = d'.map .action ∧
      ∃ next, d'.next = some next ∧ d'.answer.Describes s op next := by
    cases decides with
    | providerAnswered stands outcome => exact ⟨_, rfl, describes_of_provider stands outcome⟩
    | countryAnswered stands outcome => exact ⟨_, rfl, describes_of_country stands outcome⟩
    | _ => cases party
  obtain ⟨d', rfl, next, commits, describes⟩ := described
  refine ⟨d'.answer, next, rfl, ?_, describes⟩
  rw [performs, get_carryOut (d := d'.map .action) commits, if_pos rfl]

namespace Sample

/-- The provider puts off the user who is with it. -/
def pausing : Moment :=
  ⟨env, choosing.reply.store, .providerResponse id
    { issuer := provider.id
      status := .authenticationPending
      statusMessage := none
      level := none
      persistentId := none
      matchingDataset := none
      authnStatement := none
      ipSeenByProvider := none
      fraudEventId := none
      fraudIndicator := none
      notOnOrAfter := none
      ip := "192.0.2.1" }⟩

end Sample

theorem sample_action_describes_commit :
    ∃ s a next, Sample.pausing.store.get Sample.id = .ok (some s) ∧ s.state.registers = false ∧
      Sample.pausing.reply.result = .ok (.action a) ∧
      Sample.pausing.reply.store.get s.id = .ok (some (s.withState next)) ∧
      a.Describes s Sample.pausing.operation next := by
  have found : ∃ s, Sample.pausing.store.get Sample.pausing.operation.session = .ok (some s) ∧
      s.state.registers = false := ⟨_, rfl, rfl⟩
  obtain ⟨s, found, signsIn⟩ := found
  have accepted : Sample.pausing.reply.result = .ok (.action (.pending Sample.id)) := rfl
  obtain ⟨a, next, same, stored, describes⟩ := action_describes_commit found rfl accepted
  exact ⟨s, a, next, found, signsIn, same ▸ accepted, stored, describes⟩

/-- Not every action says whether the user registers. -/
theorem pause_taken_for_registration :
    ¬ ∀ (env : Environment) (store : Store) (op : Operation) (s : Session) (a : ResponseAction),
      store.get op.session = .ok (some s) → op.isPartyAnswer = true →
      (perform env store op).result = .ok (.action a) → a.registering = s.state.registers := by
  intro claim
  have paused := claim Sample.env Sample.pausing.store Sample.pausing.operation _
    (.pending Sample.id) rfl rfl rfl
  cases paused

end SignInJourney
