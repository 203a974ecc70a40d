import SignInJourney.Proofs.Service.Authenticated
import SignInJourney.Proofs.Service.Levels

/-!
Whose answer counts. A session that its user has taken to an identity provider or to a country
declines every answer but one from that party, which must still be enabled
(`declines_provider`, `declines_country`). An answer with the fraud marker authenticates nobody
(`not_followsSuccess_of_marked`), and an identity provider's either is refused or has the journey in
fraud (`fraud_of_marked`).
-/

namespace SignInJourney

open Service Journey

/-- A reply that refuses and leaves no trace. -/
structure Reply.Declines (store : Store) (reply : Reply) : Prop where
  refused : ∃ refusal, reply.result = .error (.refused refusal)
  noTrace : NoTrace store reply

/-- What only a user who was authenticated gets to: a match in flight, or the end of a journey
without one. -/
def State.followsSuccess : State → Bool
  | .matchRequested _ _ _ | .nonMatchingSuccess _ => true
  | _ => false

/-- An answer of an identity provider or a country that has the fraud marker for a level. -/
def Operation.IsMarked : Operation → Prop
  | .providerResponse _ r => r.level = some .x
  | .countryResponse _ r => r.level = some .x
  | _ => False

namespace Service

variable {env : Environment} {store : Store} {id : SessionId} {s : Session}

theorem declines_of_refused {refusal : Refusal} :
    (settle env (store.touch id) s (.error (.refused refusal))).Declines store :=
  ⟨⟨refusal, rfl⟩, noTrace_answer _ _ _⟩

theorem declines_provider {sel : ProviderSelection} {r : ProviderResponse}
    (found : store.get id = .ok (some s)) (stands : s.state = .providerSelected sel)
    (inTime : s.isExpiredAt env.now = false)
    (stranger : ¬ ProviderResponse.Admitted env s.envelope sel r
      (ProviderResponse.checkedLevel sel r)) :
    (perform env store (.providerResponse id r)).Declines store := by
  obtain ⟨refusal, refused⟩ := ProviderResponse.handle_of_not_admitted stranger
  rw [perform_providerResponse found stands inTime, refused]
  exact declines_of_refused

theorem declines_country {sel : CountrySelection} {r : CountryResponse}
    (found : store.get id = .ok (some s)) (stands : s.state = .countrySelected sel)
    (inTime : s.isExpiredAt env.now = false)
    (stranger : ¬ (Country.Enabled env s.envelope.issuer sel.country ∧ r.issuer = sel.country)) :
    (perform env store (.countryResponse id r)).Declines store := by
  obtain ⟨refusal, refused⟩ := Country.handle_of_stranger stranger
  rw [perform_countryResponse found stands inTime, refused]
  exact declines_of_refused

/-- An identity provider that reports fraud is refused, or the journey is in fraud from then on. -/
theorem fraud_of_marked {r : ProviderResponse} (found : store.get id = .ok (some s))
    (goes : s.id = id) (marked : r.level = some .x) :
    (∃ refusal, (perform env store (.providerResponse id r)).result =
      .error (.refused refusal)) ∨
      ∃ sel, s.state = .providerSelected sel ∧
        (perform env store (.providerResponse id r)).store.get id =
          .ok (some (s.withState (.fraudDetected sel.provider))) := by
  have loaded := Access.load_spec env store id (some .idpSelecting)
  simp only [perform, withSession]
  generalize Access.load env store id (some .idpSelecting) = access at loaded ⊢
  cases loaded with
  | refused => exact .inl ⟨_, rfl⟩
  | expired => exact .inl ⟨_, rfl⟩
  | allowed found' =>
    cases found.symm.trans found'
    dsimp only
    rw [execute_of_orderly handles_providerResponse.orderly, providerResponse]
    split
    · rename_i sel stands
      have handled := @ProviderResponse.handle_of_marked env s.envelope sel r marked
      rcases handled with ⟨refusal, refused⟩ | ⟨d, decided, commits⟩
      · left
        refine ⟨refusal, ?_⟩
        rw [Conduct.decision_map, refused]
        rfl
      · right
        have goes : (s.withState (.fraudDetected sel.provider)).id = id := goes
        refine ⟨sel, stands, ?_⟩
        rw [Conduct.decision_map, decided]
        simp only [Except.map, settle, carryOut, Decision.map, commits]
        rw [get_put_touch goes, if_pos rfl]
    · exact .inl ⟨_, rfl⟩

end Service

section Marked

variable {env : Environment} {e : Envelope} {next : State}

theorem not_followsSuccess_of_provider {sel : ProviderSelection} {r : ProviderResponse}
    {d : Decision ResponseAction} (outcome : ProviderResponse.Outcome env e sel r d)
    (marked : r.level = some .x) (commits : d.next = some next) : next.followsSuccess = false := by
  have fraudulent : r.isFraudulent = true := ProviderResponse.isFraudulent_of_marked marked
  cases outcome with
  | fraud => cases commits; rfl
  | matching genuine => rw [fraudulent] at genuine; cases genuine
  | nonMatching genuine => rw [fraudulent] at genuine; cases genuine
  | noContextSigningIn genuine => rw [fraudulent] at genuine; cases genuine
  | _ => cases commits; rfl

theorem not_followsSuccess_of_country {sel : CountrySelection} {r : CountryResponse}
    {d : Decision ResponseAction} (outcome : Country.Outcome env e sel r d)
    (marked : r.level = some .x) (levels : sel.levels = Country.defaultLevels)
    (commits : d.next = some next) : next.followsSuccess = false := by
  have unacceptable : ∀ {a : Country.Assertion}, ¬ Country.Succeeds sel r a := by
    intro a succeeds
    have level : a.achieved = .x := Option.some.inj (succeeds.level.symm.trans marked)
    have acceptable := succeeds.acceptable
    rw [level, levels] at acceptable
    exact absurd acceptable (by decide)
  cases outcome with
  | matching _ _ _ succeeds => exact absurd succeeds unacceptable
  | nonMatching _ _ _ succeeds => exact absurd succeeds unacceptable
  | authnFailed => cases commits; rfl

/-- The fraud marker takes no session to where only an authenticated user gets. -/
theorem not_followsSuccess_of_marked {history : List Moment} {m : Moment} {id : SessionId}
    {s : Session} (run : Run history m.store) (found : m.store.get id = .ok (some s))
    (marked : m.operation.IsMarked) :
    ∃ s', m.reply.store.get id = .ok (some s') ∧
      (s' = s ∨ s'.state.followsSuccess = false) := by
  have fresh : m.operation.Fresh m.store := by
    cases operation : m.operation with
    | createSession =>
      rw [operation] at marked
      exact marked.elim
    | _ => exact trivial
  obtain ⟨s?', stored, change⟩ := change_of_sound run.sound fresh found
  cases change with
  | idle => exact ⟨s, stored, .inl rfl⟩
  | expires => exact ⟨_, stored, .inr rfl⟩
  | commits _ _ decides commits =>
    refine ⟨_, stored, .inr ?_⟩
    have justified := run.justified found
    generalize m.operation = op at decides marked
    cases decides with
    | providerAnswered _ outcome => exact not_followsSuccess_of_provider outcome marked commits
    | countryAnswered stands outcome =>
      rw [stands] at justified
      exact not_followsSuccess_of_country outcome marked justified commits
    | _ => exact marked.elim

end Marked

/-- Whose answers the session takes. -/
structure Session.HeedsParty (env : Environment) (store : Store) (s : Session) : Prop where
  provider : ∀ sel r, s.state = .providerSelected sel → ¬ s.envelope.expiry < env.now →
    ¬ ProviderResponse.Admitted env s.envelope sel r (ProviderResponse.checkedLevel sel r) →
    (perform env store (.providerResponse s.id r)).Declines store
  country : ∀ sel r, s.state = .countrySelected sel → ¬ s.envelope.expiry < env.now →
    ¬ (Country.Enabled env s.envelope.issuer sel.country ∧ r.issuer = sel.country) →
    (perform env store (.countryResponse s.id r)).Declines store
  marked : ∀ op, op.IsMarked → ∃ s', (perform env store op).store.get s.id = .ok (some s') ∧
    (s' = s ∨ s'.state.followsSuccess = false)
  fraud : ∀ r : ProviderResponse, r.level = some .x →
    (∃ refusal, (perform env store (.providerResponse s.id r)).result =
      .error (.refused refusal)) ∨
    ∃ sel, s.state = .providerSelected sel ∧
      (perform env store (.providerResponse s.id r)).store.get s.id =
        .ok (some (s.withState (.fraudDetected sel.provider)))

/-- In every run, whatever the directory has become, a session takes an answer only from the party
that its user has picked, and only while that party is enabled for the transaction; and the fraud
marker authenticates nobody. -/
theorem run_party_heeded {history : List Moment} {store : Store} (run : Run history store)
    {id : SessionId} {s : Session} (found : store.get id = .ok (some s)) (env : Environment) :
    s.HeedsParty env store := by
  have goes : s.id = id := run.sound.id_eq found
  subst goes
  constructor
  case provider =>
    intro sel r stands inTime stranger
    exact declines_provider found stands (decide_eq_false inTime) stranger
  case country =>
    intro sel r stands inTime stranger
    exact declines_country found stands (decide_eq_false inTime) stranger
  case marked =>
    intro op marked
    exact not_followsSuccess_of_marked (m := ⟨env, store, op⟩) run found marked
  case fraud =>
    intro r marked
    exact fraud_of_marked found rfl marked

namespace Sample

/-- The sample's provider has been disabled. -/
def shut : Environment :=
  { env with
    directory :=
      .ofDocument
        { transactions := [transaction]
          providers := [{ provider with enabled := false }]
          matchingServices := [matchingService]
          countries := [] } }

theorem run_choosing : Run [opening, choosing] choosing.reply.store := by
  have whole : Run ([opening, choosing] ++ [authenticating]) authenticating.reply.store :=
    run_authenticating
  exact whole.at_moment.1

end Sample

/-- A provider that is disabled while its user is there does not get a success through. -/
theorem sample_party_heeded :
    (perform Sample.shut Sample.choosing.reply.store Sample.authenticating.operation).Declines
      Sample.choosing.reply.store := by
  have found : Sample.choosing.reply.store.get Sample.id = .ok (some _) := rfl
  refine (run_party_heeded Sample.run_choosing found Sample.shut).provider _ _ rfl (by decide) ?_
  intro admitted
  exact absurd admitted.enabled (by decide)

end SignInJourney
