import SignInJourney.Proofs.Service.Forward
import SignInJourney.Proofs.Service.Separation

/-!
Billing. A moment reports an authentication of a session if it takes the session from the party that
its user was sent to into a match or to the end of a journey without one, and only then; the one
event has the details of the selection and of the answer (`Moment.billing`). Over a run a session is
billed once at most (`run_billed_once`).
-/

namespace SignInJourney

open Service Journey

namespace State

/-- What an authentication leads to: a match in cycle 0 and 1, or the end of a journey without
matching. -/
def isAuthenticated : State → Bool
  | .matchRequested _ .cycle01 _ | .nonMatchingSuccess _ => true
  | _ => false

theorem rank_pos_of_isAuthenticated {state : State} (authenticated : state.isAuthenticated = true) :
    1 ≤ state.rank := by
  cases state with
  | matchRequested _ stage => exact stage.rank_pos
  | nonMatchingSuccess => exact Nat.succ_pos 4
  | _ => cases authenticated

theorem rank_eq_zero_of_sentTo {state : State} (sent : state.sentTo?.isSome) : state.rank = 0 := by
  cases state with
  | providerSelected => rfl
  | countrySelected => rfl
  | _ => cases sent

end State

/-- What an event says about an authentication. -/
structure AuditEvent.Bills (e : AuditEvent) (party : String) (levels : List Level)
    (persistentId : Option String) (achieved : Option Level) : Prop where
  party : e.detail? .idpEntityId = some party
  persistentId : ∃ pid, persistentId = some pid ∧ e.detail? .pid = some pid
  provided : ∃ level, achieved = some level ∧
    e.detail? .providedLevelOfAssurance = some level.name
  minimum : ∃ level, levels.head? = some level ∧
    e.detail? .minimumLevelOfAssurance = some level.name
  required : ∃ level, levels.getLast? = some level ∧
    e.detail? .requiredLevelOfAssurance = some level.name

/-- An event bills the party that a session was with for its answer. -/
inductive Session.Billed (s : Session) : Operation → AuditEvent → Prop
  | provider {id : SessionId} {sel : ProviderSelection} {r : ProviderResponse} {e : AuditEvent}
      (stands : s.state = .providerSelected sel)
      (bills : e.Bills sel.provider sel.levels r.persistentId r.level) :
      Billed s (.providerResponse id r) e
  | country {id : SessionId} {sel : CountrySelection} {r : CountryResponse} {e : AuditEvent}
      (stands : s.state = .countrySelected sel)
      (bills : e.Bills sel.country sel.levels r.persistentId r.level) :
      Billed s (.countryResponse id r) e

/-- What a decision commits and reports, for billing: an authentication of the session, with the one
event that bills for it, or neither. -/
inductive Session.Billing (s : Session) (op : Operation) (next? : Option State)
    (reports : List Report) : Prop
  | billed {next : State} {what : Occurrence} (commits : next? = some next)
      (sent : s.state.sentTo?.isSome) (authenticated : next.isAuthenticated = true)
      (one : reports = [.occurrence s.envelope what])
      (milestone : what.milestone = .idpAuthnSucceeded)
      (bills : ∀ service now, s.Billed op (.ofReport service now (.occurrence s.envelope what)))
  | unbilled (silent : ∀ report ∈ reports, report.milestone? ≠ some .idpAuthnSucceeded)
      (other : ∀ next, next? = some next → s.state.sentTo?.isSome → next.isAuthenticated = false)

section Decisions

variable {env : Environment} {s : Session} {id : SessionId}

theorem exists_bounds {levels : List Level} {level : Level} (member : level ∈ levels) :
    ∃ minimum required, levels.head? = some minimum ∧ levels.getLast? = some required := by
  have nonempty : levels ≠ [] := List.ne_nil_of_mem member
  exact ⟨levels.head nonempty, levels.getLast nonempty, List.head?_eq_some_head nonempty,
    List.getLast?_eq_some_getLast nonempty⟩

/-- The levels of a selection that a success answers to are not none, so the success is reported. -/
theorem ProviderResponse.billed_of_succeeds {sel : ProviderSelection} {r : ProviderResponse}
    {a : ProviderResponse.Assertion} (stands : s.state = .providerSelected sel)
    (succeeds : ProviderResponse.Succeeds env s.envelope sel r a) :
    ∃ what, ProviderResponse.successReport s.envelope sel r a = [.occurrence s.envelope what] ∧
      what.milestone = .idpAuthnSucceeded ∧ ∀ service now,
      s.Billed (.providerResponse id r) (.ofReport service now (.occurrence s.envelope what)) := by
  obtain ⟨minimum, required, first, last⟩ := exists_bounds succeeds.acceptable
  simp only [ProviderResponse.successReport, first, last]
  refine ⟨_, rfl, rfl, fun service now => .provider stands ?_⟩
  exact ⟨rfl, ⟨_, succeeds.persistentId, rfl⟩, ⟨_, succeeds.level, rfl⟩, ⟨_, first, rfl⟩,
    ⟨_, last, rfl⟩⟩

theorem Country.billed_of_succeeds {sel : CountrySelection} {r : CountryResponse}
    {a : Country.Assertion} (stands : s.state = .countrySelected sel)
    (succeeds : Country.Succeeds sel r a) :
    ∃ what, Country.successReport s.envelope sel r a = [.occurrence s.envelope what] ∧
      what.milestone = .idpAuthnSucceeded ∧ ∀ service now,
      s.Billed (.countryResponse id r) (.ofReport service now (.occurrence s.envelope what)) := by
  obtain ⟨minimum, required, first, last⟩ := exists_bounds succeeds.acceptable
  simp only [Country.successReport, first, last]
  refine ⟨_, rfl, rfl, fun service now => .country stands ?_⟩
  exact ⟨rfl, ⟨_, succeeds.persistentId, rfl⟩, ⟨_, succeeds.level, rfl⟩, ⟨_, first, rfl⟩,
    ⟨_, last, rfl⟩⟩

theorem unbilled_of_occurrence {op : Operation} {next? : Option State} {envelope : Envelope}
    {what : Occurrence} (otherwise : what.milestone ≠ .idpAuthnSucceeded)
    (other : ∀ next, next? = some next → next.isAuthenticated = false) :
    s.Billing op next? [.occurrence envelope what] := by
  refine .unbilled (fun report member => ?_) fun next commits _ => other next commits
  cases List.mem_singleton.mp member
  exact fun of => otherwise (Option.some.inj of)

theorem billing_of_provider {sel : ProviderSelection} {r : ProviderResponse}
    {d : Decision ResponseAction} (stands : s.state = .providerSelected sel)
    (outcome : ProviderResponse.Outcome env s.envelope sel r d) :
    s.Billing (.providerResponse id r) d.next d.reports := by
  have sent : s.state.sentTo?.isSome := by rw [stands]; rfl
  cases outcome with
  | matching _ _ succeeds =>
    obtain ⟨what, one, milestone, bills⟩ := ProviderResponse.billed_of_succeeds stands succeeds
    exact .billed rfl sent rfl one milestone bills
  | nonMatching _ _ succeeds =>
    obtain ⟨what, one, milestone, bills⟩ := ProviderResponse.billed_of_succeeds stands succeeds
    exact .billed rfl sent rfl one milestone bills
  | noContextSigningIn _ _ _ _ start =>
    obtain ⟨_, _, rfl⟩ := Environment.startState_eq_ok.mp start
    refine unbilled_of_occurrence (by simp [Occurrence.milestone]) ?_
    rintro _ ⟨⟩
    rfl
  | _ =>
    refine unbilled_of_occurrence (by simp [Occurrence.milestone]) ?_
    rintro _ ⟨⟩
    rfl

theorem billing_of_country {sel : CountrySelection} {r : CountryResponse}
    {d : Decision ResponseAction} (stands : s.state = .countrySelected sel)
    (outcome : Country.Outcome env s.envelope sel r d) :
    s.Billing (.countryResponse id r) d.next d.reports := by
  have sent : s.state.sentTo?.isSome := by rw [stands]; rfl
  cases outcome with
  | matching _ _ _ succeeds =>
    obtain ⟨what, one, milestone, bills⟩ := Country.billed_of_succeeds stands succeeds
    exact .billed rfl sent rfl one milestone bills
  | nonMatching _ _ _ succeeds =>
    obtain ⟨what, one, milestone, bills⟩ := Country.billed_of_succeeds stands succeeds
    exact .billed rfl sent rfl one milestone bills
  | authnFailed =>
    refine unbilled_of_occurrence (by simp [Occurrence.milestone]) ?_
    rintro _ ⟨⟩
    rfl

theorem Service.Decides.billing {op : Operation} {d : Decision Answer}
    (decides : Decides env s op d) : s.Billing op d.next d.reports := by
  have silent : .idpAuthnSucceeded ∉ op.milestones →
      ∀ report ∈ d.reports, report.milestone? ≠ some .idpAuthnSucceeded :=
    fun unlisted report member of => unlisted (decides.milestone_mem report member _ of)
  have elsewhere {family : Family} {stage : Stage} {request : MatchRequest}
      (waits : s.state = .matchRequested family stage request) : ¬ s.state.sentTo?.isSome := by
    rw [waits]
    exact Bool.false_ne_true
  cases decides with
  | providerAnswered stands outcome => exact billing_of_provider stands outcome
  | countryAnswered stands outcome => exact billing_of_country stands outcome
  | matchingAnswered waits =>
    refine .unbilled (silent (by simp [Operation.milestones])) fun next _ sent => ?_
    exact absurd sent (elsewhere (Matching.pending?_eq_some.mp waits).2)
  | restarted start =>
    obtain ⟨_, _, rfl⟩ := Environment.startState_eq_ok.mp start
    refine .unbilled (silent (by simp [Operation.milestones])) ?_
    rintro _ ⟨⟩ _
    rfl
  | _ =>
    refine .unbilled (silent (by simp [Operation.milestones])) ?_
    rintro _ ⟨⟩ _ <;> rfl

end Decisions

namespace Moment

/-- What bills somebody for an authentication of a session. -/
def billings (m : Moment) (id : SessionId) : List AuditEvent :=
  m.reported id .idpAuthnSucceeded

/-- A moment takes a session from the party that its user was sent to to what an authentication
leads to. -/
structure LetsIn (m : Moment) (id : SessionId) (s : Session) (next : State) : Prop where
  found : m.store.get id = .ok (some s)
  stored : m.reply.store.get id = .ok (some (s.withState next))
  sent : s.state.sentTo?.isSome
  authenticated : next.isAuthenticated = true

/-- A moment authenticates the user of a session and bills for it with one event, or does neither.
-/
inductive Billing (m : Moment) (id : SessionId) : Prop
  | billed {s : Session} {next : State} {e : AuditEvent}
      (letsIn : m.LetsIn id s next) (one : m.billings id = [e])
      (bills : s.Billed m.operation e)
  | unbilled (silent : m.billings id = []) (otherwise : ∀ s next, ¬ m.LetsIn id s next)

variable {m : Moment} {id : SessionId}

theorem LetsIn.progress {s : Session} {next : State} (h : m.LetsIn id s next)
    {s? s?' : Option Session} (found : m.store.get id = .ok s?)
    (stored : m.reply.store.get id = .ok s?') :
    Session.progress s? < 1 ∧ 1 ≤ Session.progress s?' := by
  cases found.symm.trans h.found
  cases stored.symm.trans h.stored
  have before : s.state.rank = 0 := State.rank_eq_zero_of_sentTo h.sent
  have after : 1 ≤ next.rank := State.rank_pos_of_isAuthenticated h.authenticated
  exact ⟨Nat.lt_one_iff.mpr before, after⟩

theorem not_letsIn_of_kept (kept : m.reply.store.get id = m.store.get id) (s : Session)
    (next : State) : ¬ m.LetsIn id s next := by
  intro h
  have progress := h.progress h.found (kept.trans h.found)
  omega

theorem billing_of_decided {s : Session} {d : Decision Answer} (goes : s.id = m.operation.session)
    (found : m.store.get m.operation.session = .ok (some s))
    (decides : Decides m.env s m.operation d)
    (reply : m.reply = carryOut m.env (m.store.touch m.operation.session) s d) :
    m.Billing m.operation.session := by
  have events : m.reply.events = Service.events m.env d.reports := congrArg Reply.events reply
  have stored : ∀ next, d.next = some next →
      m.reply.store.get m.operation.session = .ok (some (s.withState next)) := by
    intro next commits
    rw [reply, get_carryOut commits, if_pos goes]
  cases decides.billing with
  | @billed next what commits sent authenticated one milestone bills =>
    have billings : m.billings m.operation.session = if s.id = m.operation.session then _ else [] :=
      milestone ▸ reported_of_occurrence (one ▸ events)
    rw [if_pos goes] at billings
    exact .billed ⟨found, stored next commits, sent, authenticated⟩ billings (bills _ _)
  | unbilled silent other =>
    refine .unbilled (reported_eq_nil events silent) fun s' next h => ?_
    cases found.symm.trans h.found
    cases commits : d.next with
    | none =>
      have kept : m.reply.store.get m.operation.session = m.store.get m.operation.session := by
        rw [reply, get_carryOut_of_kept commits]
      exact not_letsIn_of_kept kept s next h
    | some next' =>
      cases (stored next' commits).symm.trans h.stored
      exact absurd h.authenticated (by simp [other next commits h.sent])

theorem billing_of_own (sound : m.store.Sound) : m.Billing m.operation.session := by
  have effect : Effect m.env m.store m.operation m.reply := effect_of_perform _ _ _
  generalize operation : m.operation = op at effect
  generalize reply : m.reply = r at effect
  have unbilled (noTrace : NoTrace m.store r) : m.Billing op.session :=
    .unbilled (reported_of_silent (reply ▸ noTrace.unreported))
      (not_letsIn_of_kept (reply ▸ noTrace.kept op.session))
  cases effect with
  | @opened id request opening opens =>
    obtain ⟨_, starts⟩ := Start.state_of_openSession opens
    obtain ⟨_, _, _, _, _, _, _, _, made⟩ := Start.openSession_eq_ok.mp opens
    refine .unbilled (reported_eq_nil (congrArg Reply.events reply) fun report member => ?_) ?_
    · cases List.mem_singleton.mp member
      simp [made, Report.milestone?, Occurrence.milestone]
    · intro s next h
      have goes : opening.session.id = (Operation.createSession id request).session :=
        congrArg (·.session.id) made
      have stored := h.stored
      rw [reply, Store.get_put, if_pos goes, Except.ok.injEq, Option.some.injEq] at stored
      have authenticated := h.authenticated
      rw [← Session.state_withState s next, ← stored, starts] at authenticated
      cases authenticated
  | existence => exact unbilled ⟨fun _ => rfl, rfl, rfl⟩
  | level => exact unbilled (noTrace_answer _ _ _)
  | failed _ noTrace => exact unbilled noTrace
  | @expired _ s found =>
    refine .unbilled (reported_eq_nil (congrArg Reply.events reply) fun report member => ?_) ?_
    · cases List.mem_singleton.mp member
      simp [Report.milestone?, Occurrence.milestone]
    · intro s' next h
      cases found.symm.trans h.found
      have goes : s.id = op.session := sound.id_eq found
      have stored := h.stored
      rw [reply, get_put_touch (show (s.withState .timedOut).id = op.session from goes),
        if_pos rfl] at stored
      cases stored
      cases h.authenticated
  | decided found _ decides =>
    subst operation
    exact billing_of_decided (sound.id_eq found) found decides reply

theorem billing (sound : m.store.Sound) (id : SessionId) : m.Billing id := by
  by_cases on : m.operation.session = id
  · exact on ▸ billing_of_own sound
  · have keeps : m.reply.KeepsTo m.operation.session m.store := keepsTo_of_sound sound _
    refine .unbilled ?_ (not_letsIn_of_kept (keeps.others id (Ne.symm on)))
    rw [billings, reported, List.filter_eq_nil_iff]
    intro event member about
    rw [Bool.and_eq_true, decide_eq_true_eq, keeps.events event member] at about
    exact on about.1

end Moment

/-- Over a run, an operation bills for a session exactly when it authenticates its user: it takes
the session from the party that the user was sent to to what an authentication leads to. It then
bills with one event, which names the party, the persistent id and the level of its answer, and the
first and the last of the levels that it was asked for; and that happens once at most. -/
theorem run_billed_once {history : List Moment} {store : Store} (run : Run history store)
    (id : SessionId) :
    (∀ m ∈ history,
      (m.billings id ≠ [] ↔ ∃ s next, m.LetsIn id s next) ∧
      ∀ s next, m.LetsIn id s next →
        ∃ e, m.billings id = [e] ∧ s.Billed m.operation e) ∧
    (history.flatMap (·.billings id)).length ≤ 1 := by
  constructor
  · intro m member
    obtain ⟨before, after, rfl⟩ := List.append_of_mem member
    cases m.billing run.at_moment.1.sound id with
    | @billed s next e letsIn one bills =>
      refine ⟨⟨fun _ => ⟨s, next, letsIn⟩, fun _ => by simp [one]⟩, fun s' next' again => ?_⟩
      cases letsIn.found.symm.trans again.found
      exact ⟨e, one, bills⟩
    | unbilled silent otherwise =>
      refine ⟨⟨fun bills => absurd silent bills, fun ⟨s, next, h⟩ => ?_⟩, fun s next h => ?_⟩
      · exact absurd h (otherwise s next)
      · exact absurd h (otherwise s next)
  · -- A bill takes the progress of the session from none to some, and it does not go back to none.
    have within : ∃ s?, store.get id = .ok s? ∧ (history.flatMap (·.billings id)).length ≤
        if 1 ≤ Session.progress s? then 1 else 0 := by
      refine run.holds_of_run (P := fun history s? => (history.flatMap (·.billings id)).length ≤
        if 1 ≤ Session.progress s? then 1 else 0) (Nat.zero_le _) ?_
      intro earlier m s? s?' run found stored change within
      refine length_once_step 1 change ?_ within
      cases m.billing run.sound id with
      | unbilled silent => exact .inl silent
      | billed letsIn one =>
        exact .inr ⟨congrArg List.length one, letsIn.progress found stored⟩
    obtain ⟨s?, _, within⟩ := within
    exact Nat.le_trans within (by split <;> decide)

/-- The sample's session is billed for once, when its provider has authenticated the user. -/
theorem sample_billed_once :
    (∃ (s : Session) (e : AuditEvent), Sample.authenticating.billings Sample.id = [e] ∧
      s.Billed Sample.authenticating.operation e) ∧
    Sample.matching.billings Sample.id = [] := by
  obtain ⟨each, once⟩ := run_billed_once Sample.run Sample.id
  obtain ⟨e, one, bills⟩ := (each Sample.authenticating (by simp)).2 _ _ ⟨rfl, rfl, rfl, rfl⟩
  refine ⟨⟨_, e, one, bills⟩, ?_⟩
  simp only [List.flatMap_cons, List.length_append, one, List.length_singleton] at once
  exact List.length_eq_zero_iff.mp (by omega)

end SignInJourney
