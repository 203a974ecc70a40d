import SignInJourney.Proofs.Journey.Country
import SignInJourney.Proofs.Journey.Matching
import SignInJourney.Proofs.Journey.ProviderResponse
import SignInJourney.Proofs.Journey.Start
import SignInJourney.Proofs.Service.Access
import SignInJourney.Proofs.Service.Refusals

/-!
What an operation comes to. `Decides` has a case for everything that a handler can decide about its
session, and `Effect` has one for everything that an operation can do to the store and say about
it; `effect_of_perform` holds for every operation on every store.
-/

namespace SignInJourney

namespace Service

open Journey

/-- What the handler of an operation decides about its session. -/
inductive Decides (env : Environment) (s : Session) : Operation → Decision Answer → Prop
  | signInDetails {id : SessionId} :
    Decides env s (.signInDetails id) (.reply (.signIn (Start.signInDetails s)))
  | providerSelected {id : SessionId} {choice : ProviderChoice} {selected : ProviderSelection}
      (made : ProviderSelection.selection env s choice = .ok selected) :
      Decides env s (.selectProvider id choice)
        (.commit .done (.providerSelected selected)
          [.occurrence s.envelope
            (.providerSelected choice.provider selected.levels choice.ip)])
  | countrySelected {id : SessionId} {country : String} {service : Option String}
      (enabled : Country.Enabled env s.envelope.issuer country)
      (bound : env.matchingServiceFor s.envelope.issuer = .ok service) :
      Decides env s (.selectCountry id country)
        (.commit .done (.countrySelected (Country.selection s country service))
          [.occurrence s.envelope (.countrySelected country)])
  | providerRequest {id : SessionId} {sel : ProviderSelection}
      (stands : s.state = .providerSelected sel) :
      Decides env s (.requestFromHub id) ((ProviderResponse.fetched s.envelope sel).map .request)
  | countryRequest {id : SessionId} {sel : CountrySelection}
      (stands : s.state = .countrySelected sel) :
      Decides env s (.requestFromHub id) ((Country.fetched env s.envelope sel).map .request)
  | providerAnswered {id : SessionId} {r : ProviderResponse} {sel : ProviderSelection}
      {d : Decision ResponseAction} (stands : s.state = .providerSelected sel)
      (outcome : ProviderResponse.Outcome env s.envelope sel r d) :
      Decides env s (.providerResponse id r) (d.map .action)
  | countryAnswered {id : SessionId} {r : CountryResponse} {sel : CountrySelection}
      {d : Decision ResponseAction} (stands : s.state = .countrySelected sel)
      (outcome : Country.Outcome env s.envelope sel r d) :
      Decides env s (.countryResponse id r) (d.map .action)
  | matchingAnswered {id : SessionId} {r : MatchingResponse} {p : Matching.Pending}
      {d : Decision Unit} (waits : Matching.pending? s = some p)
      (outcome : Matching.Outcome env p r d) :
      Decides env s (.matchingResponse id r) (d.map fun _ => .done)
  | matchingFailed {id : SessionId} {p : Matching.Pending} (waits : Matching.pending? s = some p) :
    Decides env s (.matchingFailure id) (p.withoutService.map fun _ => .done)
  | cycle3Question {id : SessionId} {a : Cycle3.Asked} {name : String}
      (asks : Cycle3.asked? s = some a) (named : Cycle3.attributeName env a = .ok name) :
      Decides env s (.cycle3Question id)
        (.reply (.question { attributeName := name, issuer := a.envelope.issuer }))
  | cycle3Submitted {id : SessionId} {input : Cycle3Input} {a : Cycle3.Asked} {name : String}
      {query : AttributeQuery} (asks : Cycle3.asked? s = some a)
      (named : Cycle3.attributeName env a = .ok name)
      (queries : env.query .cycle3 a.envelope a.identity = .ok query) :
      Decides env s (.submitCycle3 id input)
        (.ask .done
          (.matchRequested a.family .cycle3 (Cycle3.request env a (.single name input.value)))
          [.occurrence a.envelope (.cycle3Submitted input.ip)]
          (query.withCycle3Dataset (some (.single name input.value))))
  | cycle3Cancelled {id : SessionId} {a : Cycle3.Asked} (asks : Cycle3.asked? s = some a) :
    Decides env s (.cancelCycle3 id)
      (.commit .done .cycle3Cancelled [.occurrence a.envelope .cycle3Cancelled])
  | waiting {id : SessionId} {p : Matching.Pending} {deadline : Time.Instant}
      (waits : Matching.pending? s = some p)
      (due : p.request.sentAt.add? env.policy.waitPeriod = some deadline)
      (patient : ¬ deadline < env.now) :
      Decides env s (.processingDetails id) (.reply (.processing (p.details .wait)))
  | givenUp {id : SessionId} {p : Matching.Pending} {deadline : Time.Instant}
      (waits : Matching.pending? s = some p)
      (due : p.request.sentAt.add? env.policy.waitPeriod = some deadline)
      (late : deadline < env.now) :
      Decides env s (.processingDetails id)
        (p.withoutService.map fun _ => .processing (p.details .showMatchingErrorPage))
  | nextStep {id : SessionId} {details : ProcessingDetails}
      (waitsNot : Matching.pending? s = none)
      (step : Answer.processingDetails s = .ok details) :
      Decides env s (.processingDetails id) (.reply (.processing details))
  | prepared {id : SessionId} {r : HubResponse}
      (response : Answer.response? s.envelope s.state = some r) :
      Decides env s (.preparedResponse id) (.reply (.response r))
  | errorResponse {id : SessionId} :
    Decides env s (.errorResponse id) (.reply (.response (Answer.errorResponse s)))
  | restarted {id : SessionId} {next : State}
      (start : env.startState s.envelope.issuer = .ok next) :
      Decides env s (.restart id)
        (.commit .done next
          (if s.state.isEidas then [.occurrence s.envelope .movedToStart] else []))

/-! What every handler decides. -/

section Handlers

variable {env : Environment} {s : Session} {id : SessionId} {d : Decision Answer}

theorem map_decision_eq_ok {α : Type} {name : α → Answer} {c : Conduct α} :
    (c.map name).decision = .ok d ↔ ∃ d', c.decision = .ok d' ∧ d'.map name = d := by
  rw [Conduct.decision_map, map_eq_ok]

theorem saying_eq_ok {α : Type} {name : α → Answer} {step : Except Failure α} :
    (saying name step).decision = .ok d ↔ ∃ a, step = .ok a ∧ .reply (name a) = d := by
  cases step with
  | ok a => exact ⟨fun h => ⟨a, rfl, Except.ok.inj h⟩, fun ⟨_, rfl, h⟩ => congrArg _ h⟩
  | error f => exact ⟨nofun, nofun⟩

theorem withPending_eq_ok {handler : Matching.Pending → Conduct Unit} :
    (withPending s handler).decision = .ok d ↔
      ∃ p d', Matching.pending? s = some p ∧ (handler p).decision = .ok d' ∧
        d'.map (fun _ => .done) = d := by
  unfold withPending
  cases Matching.pending? s with
  | none => simp [unfit]
  | some p => simp [silently, map_eq_ok]

theorem withAsked_eq_ok {handler : Cycle3.Asked → Conduct Answer} :
    (withAsked s handler).decision = .ok d ↔
      ∃ a, Cycle3.asked? s = some a ∧ (handler a).decision = .ok d := by
  unfold withAsked
  cases Cycle3.asked? s <;> simp [unfit]

theorem decides_selectProvider {choice : ProviderChoice}
    (h : (silently (ProviderSelection.select env s choice)).decision = .ok d) :
    Decides env s (.selectProvider id choice) d := by
  obtain ⟨_, selects, rfl⟩ := map_decision_eq_ok.mp h
  obtain ⟨selected, made, rfl⟩ := ProviderSelection.select_eq_ok.mp selects
  exact .providerSelected made

theorem decides_selectCountry {country : String}
    (h : (silently (Country.select env s country)).decision = .ok d) :
    Decides env s (.selectCountry id country) d := by
  obtain ⟨_, selects, rfl⟩ := map_decision_eq_ok.mp h
  obtain ⟨enabled, service, bound, rfl⟩ := Country.select_eq_ok.mp selects
  exact .countrySelected enabled bound

theorem decides_requestFromHub (h : (requestFromHub env s).decision = .ok d) :
    Decides env s (.requestFromHub id) d := by
  unfold requestFromHub at h
  split at h
  · rename_i sel stands
    obtain ⟨_, fetches, rfl⟩ := map_decision_eq_ok.mp h
    rw [ProviderResponse.decision_request] at fetches
    cases fetches
    exact .providerRequest stands
  · rename_i sel stands
    obtain ⟨_, fetches, rfl⟩ := map_decision_eq_ok.mp h
    rw [Country.decision_request] at fetches
    cases fetches
    exact .countryRequest stands
  · cases h

theorem decides_providerResponse {r : ProviderResponse}
    (h : (providerResponse env r s).decision = .ok d) :
    Decides env s (.providerResponse id r) d := by
  unfold providerResponse at h
  split at h
  · rename_i sel stands
    obtain ⟨d', handled, rfl⟩ := map_decision_eq_ok.mp h
    exact .providerAnswered stands (ProviderResponse.outcome_of_handle handled)
  · cases h

theorem decides_countryResponse {r : CountryResponse}
    (h : (countryResponse env r s).decision = .ok d) : Decides env s (.countryResponse id r) d := by
  unfold countryResponse at h
  split at h
  · rename_i sel stands
    obtain ⟨d', handled, rfl⟩ := map_decision_eq_ok.mp h
    exact .countryAnswered stands (Country.outcome_of_handle handled)
  · cases h

theorem decides_matchingResponse {r : MatchingResponse}
    (h : (withPending s fun p => Matching.handle env p r).decision = .ok d) :
    Decides env s (.matchingResponse id r) d := by
  obtain ⟨p, d', waits, handled, rfl⟩ := withPending_eq_ok.mp h
  exact .matchingAnswered waits (Matching.outcome_of_handle handled)

theorem decides_matchingFailure (h : (withPending s Matching.fail).decision = .ok d) :
    Decides env s (.matchingFailure id) d := by
  obtain ⟨p, d', waits, handled, rfl⟩ := withPending_eq_ok.mp h
  rw [Matching.decision_fail] at handled
  cases handled
  exact .matchingFailed waits

theorem decides_cycle3Question
    (h : (withAsked s fun a => saying .question (Cycle3.question env a)).decision = .ok d) :
    Decides env s (.cycle3Question id) d := by
  obtain ⟨a, asks, h⟩ := withAsked_eq_ok.mp h
  obtain ⟨question, asked, rfl⟩ := saying_eq_ok.mp h
  obtain ⟨name, named, h⟩ := bind_eq_ok.mp asked
  cases h
  exact .cycle3Question asks named

theorem decides_submitCycle3 {input : Cycle3Input}
    (h : (withAsked s fun a => silently (Cycle3.submit env a input)).decision = .ok d) :
    Decides env s (.submitCycle3 id input) d := by
  obtain ⟨a, asks, h⟩ := withAsked_eq_ok.mp h
  obtain ⟨_, submitted, rfl⟩ := map_decision_eq_ok.mp h
  obtain ⟨name, query, named, queries, rfl⟩ := Cycle3.submit_eq_ok.mp submitted
  exact .cycle3Submitted asks named queries

theorem decides_cancelCycle3
    (h : (withAsked s fun a => silently (Cycle3.cancel a)).decision = .ok d) :
    Decides env s (.cancelCycle3 id) d := by
  obtain ⟨a, asks, h⟩ := withAsked_eq_ok.mp h
  cases h
  exact .cycle3Cancelled asks

theorem decides_processingDetails (h : (processingDetails env s).decision = .ok d) :
    Decides env s (.processingDetails id) d := by
  unfold processingDetails at h
  split at h
  · rename_i p waits
    obtain ⟨_, polled, rfl⟩ := map_decision_eq_ok.mp h
    obtain ⟨deadline, due, rfl⟩ := Matching.processingDetails_eq_ok.mp polled
    split
    · rename_i late
      exact .givenUp waits due late
    · rename_i patient
      exact .waiting waits due patient
  · rename_i waitsNot
    obtain ⟨details, step, rfl⟩ := saying_eq_ok.mp h
    exact .nextStep waitsNot step

theorem decides_preparedResponse (h : (saying .response (Answer.prepared s)).decision = .ok d) :
    Decides env s (.preparedResponse id) d := by
  obtain ⟨r, prepared, rfl⟩ := saying_eq_ok.mp h
  unfold Answer.prepared at prepared
  split at prepared
  · rename_i r' response
    cases prepared
    exact .prepared response
  · cases prepared

theorem decides_restart (h : (silently (Start.restart env s)).decision = .ok d) :
    Decides env s (.restart id) d := by
  obtain ⟨_, restarts, rfl⟩ := map_decision_eq_ok.mp h
  obtain ⟨next, start, rfl⟩ := Start.restart_eq_ok.mp restarts
  exact .restarted start

end Handlers

/-- Every id has the session that it had before, nothing is reported and nothing is asked. -/
structure NoTrace (store : Store) (reply : Reply) : Prop where
  kept : ∀ id, reply.store.get id = store.get id
  unreported : reply.events = []
  unasked : reply.queries = []

/-- An answer to a look at an id. -/
theorem noTrace_answer (store : Store) (id : SessionId) (result : Except Failure Answer) :
    NoTrace store (answer (store.touch id) result) :=
  ⟨store.get_touch id, rfl, rfl⟩

/-- What an operation does to the store, and what it says. -/
inductive Effect (env : Environment) (store : Store) : Operation → Reply → Prop
  | opened {id : SessionId} {request : AuthnRequest} {opening : Start.Opening}
      (opens : Start.openSession env id request = .ok opening) :
      Effect env store (.createSession id request)
        { result := .ok (.session id)
          store := store.put opening.session
          events := events env [opening.report]
          queries := [] }
  | existence {id : SessionId} :
    Effect env store (.sessionExists id) (answer store (.ok (.truth (store.contains id))))
  | level {id : SessionId} {s : Session} (found : store.get id = .ok (some s)) :
    Effect env store (.levelOfAssurance id)
      (answer (store.touch id) (.ok (.level s.state.achievedLevel?)))
  | failed {op : Operation} {reply : Reply} {f : Failure} (result : reply.result = .error f)
      (noTrace : NoTrace store reply) : Effect env store op reply
  | expired {op : Operation} {s : Session} (found : store.get op.session = .ok (some s))
      (late : s.isExpiredAt env.now = true) (live : s.state ≠ .timedOut) :
      Effect env store op
        { result := .error (.refused (Refusal.timeoutOf s))
          store := (store.touch op.session).put (s.withState .timedOut)
          events := events env [.occurrence s.envelope .timedOut]
          queries := [] }
  | decided {op : Operation} {s : Session} {d : Decision Answer}
      (found : store.get op.session = .ok (some s)) (allowed : Access.Allowed env op.needed s)
      (decides : Decides env s op d) :
      Effect env store op (carryOut env (store.touch op.session) s d)

/-- An operation that is allowed on its session comes to what its handler decides. -/
theorem withSession_of_allowed {env : Environment} {store : Store} {id : SessionId} {s : Session}
    {needed : Option Capability} {handler : Session → Conduct Answer}
    (orderly : (handler s).Orderly s.envelope) (found : store.get id = .ok (some s))
    (allowed : Access.Allowed env needed s) :
    withSession env store id needed handler =
      settle env (store.touch id) s (handler s).decision := by
  rw [withSession, Access.load_of_allowed found allowed]
  exact execute_of_orderly orderly

/-- So does one on a session that is in time and offers what the operation needs. -/
theorem withSession_of_supports {env : Environment} {store : Store} {id : SessionId} {s : Session}
    {c : Capability} {handler : Session → Conduct Answer} (orderly : (handler s).Orderly s.envelope)
    (found : store.get id = .ok (some s)) (inTime : s.isExpiredAt env.now = false)
    (supports : s.state.supports c = true) :
    withSession env store id (some c) handler =
      settle env (store.touch id) s (handler s).decision :=
  withSession_of_allowed orderly found (Access.allowed_of_supports inTime supports)

section CarryOut

variable {env : Environment} {store : Store} {session : SessionId} {s : Session}
  {d : Decision Answer}

/-- What a decision commits is stored under the id that its session goes by, and only there. -/
theorem get_carryOut {next : State} (commits : d.next = some next) (id : SessionId) :
    (carryOut env (store.touch session) s d).store.get id =
      if s.id = id then .ok (some (s.withState next)) else store.get id := by
  simp only [carryOut, commits]
  rw [Store.get_put, Store.get_touch]
  rfl

theorem get_carryOut_of_kept (keeps : d.next = none) (id : SessionId) :
    (carryOut env (store.touch session) s d).store.get id = store.get id := by
  simp only [carryOut, keeps, Store.get_touch]

end CarryOut

section WithParty

variable {env : Environment} {store : Store} {id : SessionId} {s : Session}

/-- A session that is with an identity provider and in time takes an answer to its provider. -/
theorem perform_providerResponse {sel : ProviderSelection} {r : ProviderResponse}
    (found : store.get id = .ok (some s)) (stands : s.state = .providerSelected sel)
    (inTime : s.isExpiredAt env.now = false) :
    perform env store (.providerResponse id r) =
      settle env (store.touch id) s
        ((ProviderResponse.handle env s.envelope sel r).decision.map (.map .action)) := by
  have supports : s.state.supports .idpSelecting = true := by
    rw [stands]
    rfl
  rw [perform, withSession_of_supports handles_providerResponse.orderly found inTime supports]
  simp only [providerResponse, stands, Conduct.decision_map]

theorem perform_countryResponse {sel : CountrySelection} {r : CountryResponse}
    (found : store.get id = .ok (some s)) (stands : s.state = .countrySelected sel)
    (inTime : s.isExpiredAt env.now = false) :
    perform env store (.countryResponse id r) =
      settle env (store.touch id) s
        ((Country.handle env s.envelope sel r).decision.map (.map .action)) := by
  have supports : s.state.supports .countrySelecting = true := by
    rw [stands]
    rfl
  rw [perform, withSession_of_supports handles_countryResponse.orderly found inTime supports]
  simp only [countryResponse, stands, Conduct.decision_map]

theorem perform_requestFromHub (found : store.get id = .ok (some s)) (live : s.state ≠ .timedOut)
    (inTime : s.isExpiredAt env.now = false) :
    perform env store (.requestFromHub id) =
      settle env (store.touch id) s (requestFromHub env s).decision := by
  have allowed : Access.Allowed env none s :=
    ⟨.inl inTime, fun timedOut => absurd timedOut live, fun _ none => nomatch none⟩
  rw [perform, withSession_of_allowed handles_requestFromHub.orderly found allowed]

end WithParty

theorem effect_of_withSession {env : Environment} {store : Store} {op : Operation}
    {handler : Session → Conduct Answer} (orderly : ∀ s, (handler s).Orderly s.envelope)
    (h : ∀ s d, (handler s).decision = .ok d → Decides env s op d) :
    Effect env store op (withSession env store op.session op.needed handler) := by
  have loaded := Access.load_spec env store op.session op.needed
  unfold withSession
  generalize Access.load env store op.session op.needed = access at loaded ⊢
  cases loaded with
  | refused => exact .failed rfl (noTrace_answer _ _ _)
  | expired found late live => exact .expired found late live
  | @allowed s found allowed =>
    simp only [execute_of_orderly (orderly s), settle]
    split
    · rename_i d decided
      exact .decided found allowed (h s d decided)
    · exact .failed rfl (noTrace_answer _ _ _)

/-- Every operation, on every store. -/
theorem effect_of_perform (env : Environment) (store : Store) (op : Operation) :
    Effect env store op (perform env store op) := by
  cases op with
  | createSession id request =>
    rw [perform]
    cases opens : Start.openSession env id request with
    | error f =>
      rw [createSession_of_fails opens]
      exact .failed rfl ⟨fun _ => rfl, rfl, rfl⟩
    | ok opening =>
      rw [createSession_of_opens opens]
      exact .opened opens
  | sessionExists id => exact .existence
  | levelOfAssurance id =>
    simp only [perform, levelOfAssurance]
    split
    · rename_i s found
      exact .level (Access.peek_eq_ok.mp found)
    · exact .failed rfl (noTrace_answer _ _ _)
  | signInDetails id =>
    refine effect_of_withSession (fun _ => (handles_signInDetails env).orderly) fun s d h => ?_
    obtain ⟨_, said, rfl⟩ := saying_eq_ok.mp h
    cases said
    exact .signInDetails
  | errorResponse id =>
    refine effect_of_withSession (fun _ => (handles_errorResponse env).orderly) fun s d h => ?_
    obtain ⟨_, said, rfl⟩ := saying_eq_ok.mp h
    cases said
    exact .errorResponse
  | selectProvider id choice =>
    exact effect_of_withSession (fun _ => handles_selectProvider.orderly)
      fun _ _ => decides_selectProvider
  | selectCountry id country =>
    exact effect_of_withSession (fun _ => handles_selectCountry.orderly)
      fun _ _ => decides_selectCountry
  | requestFromHub id =>
    exact effect_of_withSession (fun _ => handles_requestFromHub.orderly)
      fun _ _ => decides_requestFromHub
  | providerResponse id r =>
    exact effect_of_withSession (fun _ => handles_providerResponse.orderly)
      fun _ _ => decides_providerResponse
  | countryResponse id r =>
    exact effect_of_withSession (fun _ => handles_countryResponse.orderly)
      fun _ _ => decides_countryResponse
  | matchingResponse id r =>
    exact effect_of_withSession (fun _ => handles_matchingResponse.orderly)
      fun _ _ => decides_matchingResponse
  | matchingFailure id =>
    exact effect_of_withSession (fun _ => (handles_matchingFailure env).orderly)
      fun _ _ => decides_matchingFailure
  | cycle3Question id =>
    exact effect_of_withSession (fun _ => handles_cycle3Question.orderly)
      fun _ _ => decides_cycle3Question
  | submitCycle3 id input =>
    exact effect_of_withSession (fun _ => handles_submitCycle3.orderly)
      fun _ _ => decides_submitCycle3
  | cancelCycle3 id =>
    exact effect_of_withSession (fun _ => (handles_cancelCycle3 env).orderly)
      fun _ _ => decides_cancelCycle3
  | processingDetails id =>
    exact effect_of_withSession (fun _ => handles_processingDetails.orderly)
      fun _ _ => decides_processingDetails
  | preparedResponse id =>
    exact effect_of_withSession (fun _ => (handles_preparedResponse env).orderly)
      fun _ _ => decides_preparedResponse
  | restart id =>
    exact effect_of_withSession (fun _ => handles_restart.orderly)
      fun _ _ => decides_restart

/-- An operation that needs something of its session and is accepted comes to what its handler
decides. -/
theorem decided_of_accepted {env : Environment} {store : Store} {op : Operation} {answer : Answer}
    {c : Capability} (needed : op.needed = some c)
    (accepted : (perform env store op).result = .ok answer) :
    ∃ s d, store.get op.session = .ok (some s) ∧ Access.Allowed env op.needed s ∧
      Decides env s op d ∧ d.answer = answer ∧
      perform env store op = carryOut env (store.touch op.session) s d := by
  have effect := effect_of_perform env store op
  generalize perform env store op = reply at effect accepted ⊢
  cases effect with
  | opened => cases needed
  | existence => cases needed
  | level => cases needed
  | failed result => rw [result] at accepted; cases accepted
  | expired => cases accepted
  | @decided _ s d found allowed decides =>
    exact ⟨s, d, found, allowed, decides, Except.ok.inj accepted, rfl⟩

end Service

end SignInJourney
