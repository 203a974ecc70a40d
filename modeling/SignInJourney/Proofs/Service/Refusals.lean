import SignInJourney.Proofs.Journey.Matching
import SignInJourney.Proofs.Service.Execution

/-!
How operations fail once their session is found. A handler looks on its own for what it needs in its
session (`Session.serves`), and turns the session away where it does not find it; otherwise it fails
only for what the event says or the directory holds, or for want of room for an instant, and before
it has done anything (`Handles`). Every operation that heeds the deadline is a look at the session
and then such a handler (`perform_of_isTimed`).
-/

namespace SignInJourney

open Service Journey

/-- The capability that an operation needs of its session. -/
def Operation.needed : Operation → Option Capability
  | .createSession _ _ | .sessionExists _ | .signInDetails _ | .requestFromHub _
  | .levelOfAssurance _ => none
  | .selectProvider _ _ | .providerResponse _ _ => some .idpSelecting
  | .selectCountry _ _ | .countryResponse _ _ => some .countrySelecting
  | .matchingResponse _ _ | .matchingFailure _ => some .waitingForMatchingServiceResponse
  | .cycle3Question _ | .submitCycle3 _ _ | .cancelCycle3 _ => some .awaitingCycle3Data
  | .processingDetails _ => some .responseProcessing
  | .preparedResponse _ => some .responsePrepared
  | .errorResponse _ => some .errorResponsePrepared
  | .restart _ => some .restartJourney

/-- Heeds the deadline of its session: all do but opening one, and the two looks at one that are
free at any time. -/
def Operation.isTimed : Operation → Bool
  | .createSession _ _ | .sessionExists _ | .levelOfAssurance _ => false
  | _ => true

theorem Operation.isTimed_of_needed {op : Operation} {c : Capability}
    (needed : op.needed = some c) : op.isTimed = true := by
  cases op with
  | createSession | sessionExists | levelOfAssurance => cases needed
  | _ => rfl

/-- The answer of an identity provider or of a country. -/
def Operation.isPartyAnswer : Operation → Bool
  | .providerResponse _ _ | .countryResponse _ _ => true
  | _ => false

/-- The capability in whose name a handler turns a session away. -/
def Operation.handling (op : Operation) : Capability :=
  op.needed.getD .idpSelecting

/-- The handler of an operation finds in a session what it looks for. -/
def Session.serves (s : Session) : Operation → Bool
  | .requestFromHub _ => s.kind = .idpSelected || s.kind = .eidasCountrySelected
  | .providerResponse _ _ => s.kind = .idpSelected
  | .countryResponse _ _ => s.kind = .eidasCountrySelected
  | .matchingResponse _ _ | .matchingFailure _ => (Matching.pending? s).isSome
  | .cycle3Question _ | .submitCycle3 _ _ | .cancelCycle3 _ => (Cycle3.asked? s).isSome
  | .processingDetails _ => (Matching.pending? s).isSome || (Answer.nextStep? s.state).isSome
  | .preparedResponse _ => (Answer.response? s.envelope s.state).isSome
  | _ => true

/-- The times of the policy fit after the present, and the wait period fits after the question that
a session waits for the answer to. -/
structure Environment.HasRoomFor (env : Environment) (s : Session) : Prop extends env.HasRoom where
  due : ∀ p, Matching.pending? s = some p →
    (p.request.sentAt.add? env.policy.waitPeriod).isSome = true

theorem State.kind_ne_idpSelected {state : State}
    (elsewhere : ∀ sel, state = .providerSelected sel → False) : state.kind ≠ .idpSelected := by
  intro selected
  cases state with
  | providerSelected sel => exact elsewhere sel rfl
  | matchRequested family stage => cases family <;> cases stage <;> cases selected
  | awaitingCycle3 family | matched family => cases family <;> cases selected
  | _ => cases selected

theorem State.kind_ne_eidasCountrySelected {state : State}
    (elsewhere : ∀ sel, state = .countrySelected sel → False) :
    state.kind ≠ .eidasCountrySelected := by
  intro selected
  cases state with
  | countrySelected sel => exact elsewhere sel rfl
  | matchRequested family stage => cases family <;> cases stage <;> cases selected
  | awaitingCycle3 family | matched family => cases family <;> cases selected
  | _ => cases selected

namespace Service

variable {env : Environment} {store : Store} {op : Operation} {s : Session} {c : Capability}

/-- A handler turns its session away just where nothing is found to decide about, and otherwise it
is sound. -/
structure Handles (env : Environment) (s : Session) (found : Bool) (c : Capability)
    (conduct : Conduct Answer) : Prop where
  sound : found = true → conduct.Sound (env.HasRoomFor s) s.envelope
  unfit : found = false → conduct = unfit s c

theorem Handles.orderly {found : Bool} {conduct : Conduct Answer}
    (h : Handles env s found c conduct) : conduct.Orderly s.envelope := by
  cases found with
  | true => exact (h.sound rfl).toOrderly
  | false =>
    rw [h.unfit rfl]
    exact .fail _

theorem Handles.refused {found : Bool} {conduct : Conduct Answer}
    (h : Handles env s found c conduct) {r : Refusal}
    (refused : conduct.result = .error (.refused r)) :
    r.OfContent ∨ r = .unsupported s.id c s.kind := by
  cases found with
  | true => exact .inl ((h.sound rfl).explained.content r refused)
  | false =>
    rw [h.unfit rfl] at refused
    cases refused
    exact .inr rfl

theorem handles_of_sound {conduct : Conduct Answer} (h : conduct.Sound env.HasRoom s.envelope) :
    Handles env s true c conduct :=
  ⟨fun _ => h.mono Environment.HasRoomFor.toHasRoom, nofun⟩

theorem handles_unfit : Handles env s false c (unfit s c) :=
  ⟨nofun, fun _ => rfl⟩

theorem handles_withPending {handler : Matching.Pending → Conduct Unit}
    (h : ∀ p, (handler p).Sound env.HasRoom p.envelope) :
    Handles env s (Matching.pending? s).isSome .waitingForMatchingServiceResponse
      (withPending s handler) := by
  unfold withPending
  cases waits : Matching.pending? s with
  | none => exact handles_unfit
  | some p =>
    have same : s.envelope = p.envelope := (Matching.pending?_eq_some.mp waits).1
    exact handles_of_sound (same ▸ (h p).map _)

theorem handles_withAsked {handler : Cycle3.Asked → Conduct Answer}
    (h : ∀ a, (handler a).Sound env.HasRoom a.envelope) :
    Handles env s (Cycle3.asked? s).isSome .awaitingCycle3Data (withAsked s handler) := by
  unfold withAsked
  cases asks : Cycle3.asked? s with
  | none => exact handles_unfit
  | some a =>
    have same : s.envelope = a.envelope := (Cycle3.asked?_eq_some.mp asks).1
    exact handles_of_sound (same ▸ h a)

/-- An answer that is all there is to it. -/
theorem handles_saying {α : Type} {name : α → Answer} {step : Except Failure α}
    (h : Failure.Explained env.HasRoom step) : Handles env s true c (saying name step) :=
  handles_of_sound ((Conduct.Sound.step h).map name)

theorem handles_requestFromHub :
    Handles env s (s.kind = .idpSelected || s.kind = .eidasCountrySelected) .idpSelecting
      (requestFromHub env s) := by
  unfold requestFromHub
  split
  · rename_i sel stands
    rw [Session.kind, stands]
    exact handles_of_sound (ProviderResponse.sound_request.map _)
  · rename_i sel stands
    rw [Session.kind, stands]
    exact handles_of_sound (Country.sound_request.map _)
  · rename_i notProvider notCountry
    rw [Session.kind, decide_eq_false (State.kind_ne_idpSelected notProvider),
      decide_eq_false (State.kind_ne_eidasCountrySelected notCountry)]
    exact handles_unfit

theorem handles_providerResponse {r : ProviderResponse} :
    Handles env s (s.kind = .idpSelected) .idpSelecting (providerResponse env r s) := by
  unfold providerResponse
  split
  · rename_i sel stands
    rw [Session.kind, stands]
    exact handles_of_sound (ProviderResponse.sound_handle.map _)
  · rename_i elsewhere
    rw [Session.kind, decide_eq_false (State.kind_ne_idpSelected elsewhere)]
    exact handles_unfit

theorem handles_countryResponse {r : CountryResponse} :
    Handles env s (s.kind = .eidasCountrySelected) .countrySelecting (countryResponse env r s) := by
  unfold countryResponse
  split
  · rename_i sel stands
    rw [Session.kind, stands]
    exact handles_of_sound (Country.sound_handle.map _)
  · rename_i elsewhere
    rw [Session.kind, decide_eq_false (State.kind_ne_eidasCountrySelected elsewhere)]
    exact handles_unfit

theorem handles_processingDetails :
    Handles env s ((Matching.pending? s).isSome || (Answer.nextStep? s.state).isSome)
      .responseProcessing (processingDetails env s) := by
  unfold processingDetails
  cases waits : Matching.pending? s with
  | some p =>
    refine ⟨fun _ => ?_, nofun⟩
    rw [(Matching.pending?_eq_some.mp waits).1]
    exact (Matching.sound_processingDetails.map _).mono fun room => room.due p waits
  | none =>
    unfold Answer.processingDetails
    cases Answer.nextStep? s.state with
    | none => exact handles_unfit
    | some step => exact handles_saying (Failure.explained_ok _)

theorem handles_preparedResponse (env : Environment) :
    Handles env s (Answer.response? s.envelope s.state).isSome .responsePrepared
      (saying .response (Answer.prepared s)) := by
  unfold Answer.prepared
  cases Answer.response? s.envelope s.state with
  | none => exact handles_unfit
  | some r => exact handles_saying (Failure.explained_ok _)

theorem handles_signInDetails (env : Environment) :
    Handles env s true .idpSelecting (saying .signIn (.ok (Start.signInDetails s))) :=
  handles_saying (Failure.explained_ok _)

theorem handles_selectProvider {choice : ProviderChoice} :
    Handles env s true .idpSelecting (silently (ProviderSelection.select env s choice)) :=
  handles_of_sound (ProviderSelection.sound_select.map _)

theorem handles_selectCountry {country : String} :
    Handles env s true .countrySelecting (silently (Country.select env s country)) :=
  handles_of_sound (Country.sound_select.map _)

theorem handles_matchingResponse {r : MatchingResponse} :
    Handles env s (Matching.pending? s).isSome .waitingForMatchingServiceResponse
      (withPending s fun p => Matching.handle env p r) :=
  handles_withPending fun _ => Matching.sound_handle

theorem handles_matchingFailure (env : Environment) :
    Handles env s (Matching.pending? s).isSome .waitingForMatchingServiceResponse
      (withPending s Matching.fail) :=
  handles_withPending fun _ => Matching.sound_fail

theorem handles_cycle3Question :
    Handles env s (Cycle3.asked? s).isSome .awaitingCycle3Data
      (withAsked s fun a => saying .question (Cycle3.question env a)) :=
  handles_withAsked fun _ => (Conduct.Sound.step Cycle3.explained_question).map _

theorem handles_submitCycle3 {input : Cycle3Input} :
    Handles env s (Cycle3.asked? s).isSome .awaitingCycle3Data
      (withAsked s fun a => silently (Cycle3.submit env a input)) :=
  handles_withAsked fun _ => Cycle3.sound_submit.map _

theorem handles_cancelCycle3 (env : Environment) :
    Handles env s (Cycle3.asked? s).isSome .awaitingCycle3Data
      (withAsked s fun a => silently (Cycle3.cancel a)) :=
  handles_withAsked fun _ => Cycle3.sound_cancel.map _

theorem handles_errorResponse (env : Environment) :
    Handles env s true .errorResponsePrepared
      (saying .response (.ok (Answer.errorResponse s))) :=
  handles_saying (Failure.explained_ok _)

theorem handles_restart : Handles env s true .restartJourney (silently (Start.restart env s)) :=
  handles_of_sound (Start.sound_restart.map _)

/-- An operation that heeds the deadline looks its session up and asks a handler. -/
theorem perform_of_isTimed (env : Environment) (timed : op.isTimed = true) :
    ∃ handler : Session → Conduct Answer,
      (∀ store, perform env store op = withSession env store op.session op.needed handler) ∧
        ∀ s, Handles env s (s.serves op) op.handling (handler s) := by
  cases op with
  | createSession | sessionExists | levelOfAssurance => cases timed
  | signInDetails => exact ⟨_, fun _ => rfl, fun _ => handles_signInDetails env⟩
  | selectProvider => exact ⟨_, fun _ => rfl, fun _ => handles_selectProvider⟩
  | selectCountry => exact ⟨_, fun _ => rfl, fun _ => handles_selectCountry⟩
  | requestFromHub => exact ⟨_, fun _ => rfl, fun _ => handles_requestFromHub⟩
  | providerResponse => exact ⟨_, fun _ => rfl, fun _ => handles_providerResponse⟩
  | countryResponse => exact ⟨_, fun _ => rfl, fun _ => handles_countryResponse⟩
  | matchingResponse => exact ⟨_, fun _ => rfl, fun _ => handles_matchingResponse⟩
  | matchingFailure => exact ⟨_, fun _ => rfl, fun _ => handles_matchingFailure env⟩
  | cycle3Question => exact ⟨_, fun _ => rfl, fun _ => handles_cycle3Question⟩
  | submitCycle3 => exact ⟨_, fun _ => rfl, fun _ => handles_submitCycle3⟩
  | cancelCycle3 => exact ⟨_, fun _ => rfl, fun _ => handles_cancelCycle3 env⟩
  | processingDetails => exact ⟨_, fun _ => rfl, fun _ => handles_processingDetails⟩
  | preparedResponse => exact ⟨_, fun _ => rfl, fun _ => handles_preparedResponse env⟩
  | errorResponse => exact ⟨_, fun _ => rfl, fun _ => handles_errorResponse env⟩
  | restart => exact ⟨_, fun _ => rfl, fun _ => handles_restart⟩

end Service

end SignInJourney
