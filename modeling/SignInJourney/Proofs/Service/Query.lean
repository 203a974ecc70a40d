import SignInJourney.Proofs.Service.Asking

/-!
The query that an operation sends and the state that it commits are about the same request. A query
describes the state that waits for its answer (`Decides.describes`) and runs out when that state
stops waiting (`waitsUntil_of_sent`); and one is sent exactly when such a state is committed
(`query_describes_commit`).
-/

namespace SignInJourney

open Service Journey

/-- Where a query is sent, when it runs out, and what it has besides what it carries. -/
structure AttributeQuery.Dispatched (q : AttributeQuery) (env : Environment) (envelope : Envelope)
    (stage : Stage) (request : MatchRequest) : Prop where
  persistentId : q.persistentId = request.identity.assertions.persistentId
  uri : ∃ endpoint, env.directory.matchingService request.identity.matchingService = .ok endpoint ∧
    q.uri = if stage = .accountCreation then endpoint.accountCreationUri else endpoint.uri
  attributes : stage = .accountCreation →
    ∃ t, env.directory.transaction envelope.issuer = .ok t ∧
      q.accountAttributes = some t.accountAttributes
  unlisted : stage ≠ .accountCreation → q.accountAttributes = none
  sentAt : request.sentAt = env.now
  timeOut : request.sentAt.add? env.policy.waitPeriod = some q.timeOut

section Dispatch

variable {env : Environment} {envelope : Envelope} {stage : Stage} {request : MatchRequest}
  {q : AttributeQuery}

theorem AttributeQuery.Dispatched.withCycle3Dataset (h : q.Dispatched env envelope stage request)
    (dataset : Option Cycle3Dataset) :
    (q.withCycle3Dataset dataset).Dispatched env envelope stage request :=
  ⟨h.persistentId, h.uri, h.attributes, h.unlisted, h.sentAt, h.timeOut⟩

theorem AttributeQuery.addressFor_eq (endpoint : MatchingEndpoint) (stage : Stage) :
    addressFor endpoint stage =
      if stage = .accountCreation then endpoint.accountCreationUri else endpoint.uri := by
  cases stage <;> rfl

theorem Environment.dispatched_query (request : MatchRequest)
    (asks : env.query stage envelope request.identity = .ok q)
    (now : request.sentAt = env.now) (search : stage ≠ .accountCreation) :
    q.Dispatched env envelope stage request := by
  obtain ⟨endpoint, known, made⟩ := query_eq_ok.mp asks
  obtain ⟨_, timeOut, _, wait, rfl⟩ := AttributeQuery.of?_eq_some.mp made
  exact ⟨rfl, ⟨endpoint, known, AttributeQuery.addressFor_eq endpoint stage⟩,
    fun creation => absurd creation search, fun _ => rfl, now, now ▸ wait⟩

theorem Environment.dispatched_accountQuery (request : MatchRequest) {t : Transaction}
    (asks : env.query .accountCreation envelope request.identity = .ok q)
    (now : request.sentAt = env.now)
    (transaction : env.directory.transaction envelope.issuer = .ok t)
    (dataset : Option Cycle3Dataset) :
    ((q.withCycle3Dataset dataset).withAccountAttributes t.accountAttributes).Dispatched env
      envelope .accountCreation request := by
  obtain ⟨endpoint, known, made⟩ := query_eq_ok.mp asks
  obtain ⟨_, timeOut, _, wait, rfl⟩ := AttributeQuery.of?_eq_some.mp made
  exact ⟨rfl, ⟨endpoint, known, rfl⟩, fun _ => ⟨t, transaction, rfl⟩, fun other => absurd rfl other,
    now, now ▸ wait⟩

end Dispatch

section Decisions

variable {env : Environment} {s : Session} {family : Family} {stage : Stage}
  {request : MatchRequest} {q : AttributeQuery}

theorem dispatched_of_provider {sel : ProviderSelection} {r : ProviderResponse}
    {d : Decision ResponseAction} (outcome : ProviderResponse.Outcome env s.envelope sel r d)
    (commits : d.next = some (.matchRequested family stage request)) (asks : d.query = some q) :
    q.Dispatched env s.envelope stage request := by
  cases outcome with
  | matching _ _ _ _ _ _ queries =>
    cases commits
    cases asks
    exact Environment.dispatched_query _ queries rfl (by simp)
  | _ => cases asks

theorem dispatched_of_country {sel : CountrySelection} {r : CountryResponse}
    {d : Decision ResponseAction} (outcome : Country.Outcome env s.envelope sel r d)
    (commits : d.next = some (.matchRequested family stage request)) (asks : d.query = some q) :
    q.Dispatched env s.envelope stage request := by
  cases outcome with
  | matching _ _ _ _ _ _ _ queries =>
    cases commits
    cases asks
    exact Environment.dispatched_query _ queries rfl (by simp)
  | _ => cases asks

theorem dispatched_of_matching {p : Matching.Pending} {r : MatchingResponse} {d : Decision Unit}
    (outcome : Matching.Outcome env p r d)
    (commits : d.next = some (.matchRequested family stage request)) (asks : d.query = some q) :
    q.Dispatched env p.envelope stage request := by
  cases outcome with
  | asksAccount _ _ _ transaction _ _ queries =>
    cases commits
    cases asks
    exact Environment.dispatched_accountQuery { p.request with sentAt := env.now } queries rfl
      transaction p.request.cycle3Dataset
  | _ => cases asks

theorem Service.Decides.dispatched {op : Operation} {d : Decision Answer}
    (decides : Decides env s op d)
    (commits : d.next = some (.matchRequested family stage request)) (asks : d.query = some q) :
    q.Dispatched env s.envelope stage request := by
  cases decides with
  | providerAnswered _ outcome => exact dispatched_of_provider outcome commits asks
  | countryAnswered _ outcome => exact dispatched_of_country outcome commits asks
  | matchingAnswered waits outcome =>
    rw [(Matching.pending?_eq_some.mp waits).1]
    exact dispatched_of_matching outcome commits asks
  | @cycle3Submitted _ input a name _ pending _ queries =>
    cases commits
    cases asks
    rw [(Cycle3.asked?_eq_some.mp pending).1]
    have sent := Environment.dispatched_query (Cycle3.request env a (.single name input.value))
      queries rfl (by simp)
    exact sent.withCycle3Dataset _
  | _ => cases asks

end Decisions

/-- A poll of a session up to an instant is told to wait, and past it that matching has failed,
whatever has become of everything but the wait period. -/
def Session.WaitsUntil (s : Session) (waitPeriod : Time.Span) (timeOut : Time.Instant) : Prop :=
  ∀ env store id, env.policy.waitPeriod = waitPeriod → store.get id = .ok (some s) →
    ¬ s.envelope.expiry < env.now →
    (perform env store (.processingDetails id)).result =
      .ok (.processing
        { session := s.id
          step := if timeOut < env.now then .showMatchingErrorPage else .wait
          transaction := s.envelope.issuer })

/-- A poll of a session that waits for the matching service and is in time. -/
theorem Service.perform_poll {env : Environment} {store : Store} {id : SessionId} {s : Session}
    {p : Matching.Pending} (found : store.get id = .ok (some s))
    (waits : Matching.pending? s = some p) (inTime : s.isExpiredAt env.now = false) :
    perform env store (.processingDetails id) =
      settle env (store.touch id) s
        ((Matching.processingDetails env p).decision.map (.map .processing)) := by
  have supports : s.state.supports .responseProcessing = true := by
    rw [(Matching.pending?_eq_some.mp waits).2]
    rfl
  rw [perform, withSession_of_supports handles_processingDetails.orderly found inTime supports,
    processingDetails]
  simp only [waits, Conduct.decision_map]

theorem waitsUntil_of_sent {s : Session} {family : Family} {stage : Stage} {request : MatchRequest}
    {waitPeriod : Time.Span} {timeOut : Time.Instant}
    (due : request.sentAt.add? waitPeriod = some timeOut) :
    (s.withState (.matchRequested family stage request)).WaitsUntil waitPeriod timeOut := by
  intro env store id period found inTime
  subst period
  let p : Matching.Pending :=
    { envelope := s.envelope, family := family, stage := stage, request := request }
  have waits : Matching.pending? (s.withState (.matchRequested family stage request)) = some p :=
    rfl
  have polled : (Matching.processingDetails env p).decision = .ok (if timeOut < env.now then
      p.withoutService.map fun _ => p.details .showMatchingErrorPage
      else .reply (p.details .wait)) :=
    Matching.processingDetails_eq_ok.mpr ⟨timeOut, due, rfl⟩
  rw [perform_poll found waits (decide_eq_false inTime), settle_result, polled]
  split <;> rfl

/-- The operation asks the matching service exactly when it commits a state that waits for the
answer, and then asks what that state waits for. -/
structure Reply.AsksForState (env : Environment) (store : Store) (session : SessionId)
    (reply : Reply) : Prop where
  once : reply.queries.length ≤ 1
  committed : ∀ id q, (id, q) ∈ reply.queries → ∃ s family stage request,
    store.get session = .ok (some s) ∧ s.id = id ∧
    s.state ≠ .matchRequested family stage request ∧
    reply.store.get id = .ok (some (s.withState (.matchRequested family stage request))) ∧
    q.Carries s.envelope stage request ∧ q.Dispatched env s.envelope stage request ∧
    (s.withState (.matchRequested family stage request)).WaitsUntil env.policy.waitPeriod q.timeOut
  asked : ∀ id s family stage request, reply.store.get id = .ok (some s) →
    s.state = .matchRequested family stage request → store.get id ≠ .ok (some s) →
    ∃ q, reply.queries = [(id, q)]

namespace Service

variable {env : Environment} {store : Store} {session : SessionId}

/-- Nothing is asked where only a state that waits for no answer is put, or nothing. -/
theorem asksForState_of_put {reply : Reply} (s' : Session) (unasked : reply.queries = [])
    (put : ∀ id, reply.store.get id = if s'.id = id then .ok (some s') else store.get id)
    (other : ∀ family stage request, s'.state ≠ .matchRequested family stage request) :
    reply.AsksForState env store session := by
  refine ⟨by rw [unasked]; exact Nat.zero_le 1, fun id q asked => ?_,
    fun id s family stage request stored waits changed => ?_⟩
  · rw [unasked] at asked
    cases asked
  · rw [put] at stored
    split at stored
    · cases stored
      exact absurd waits (other family stage request)
    · exact absurd stored changed

theorem asksForState_of_kept {reply : Reply} (unasked : reply.queries = [])
    (kept : ∀ id, reply.store.get id = store.get id) : reply.AsksForState env store session := by
  refine ⟨by rw [unasked]; exact Nat.zero_le 1, fun id q asked => ?_,
    fun id s _ _ _ stored _ changed => ?_⟩
  · rw [unasked] at asked
    cases asked
  · exact absurd ((kept id).symm.trans stored) changed

theorem asksForState_of_decided {op : Operation} {s : Session} {d : Decision Answer}
    (found : store.get op.session = .ok (some s)) (allowed : Access.Allowed env op.needed s)
    (decides : Decides env s op d) :
    (carryOut env (store.touch op.session) s d).AsksForState env store op.session := by
  cases commits : d.next with
  | none =>
    have unasked : d.query = none := decides.query_eq_none commits
    apply asksForState_of_kept
    · simp only [carryOut, unasked]
      rfl
    · exact get_carryOut_of_kept commits
  | some next =>
    have get : ∀ id, (carryOut env (store.touch op.session) s d).store.get id =
        if s.id = id then .ok (some (s.withState next)) else store.get id := get_carryOut commits
    have forward := decides.forward allowed.supports commits
    cases asks : d.query with
    | none =>
      -- A state that waits for an answer would have come with its query.
      refine asksForState_of_put (s.withState next) (by simp only [carryOut, asks]; rfl) get ?_
      rintro family stage request rfl
      obtain ⟨_, q, query, _⟩ := decides.asks commits
      cases asks.symm.trans query
    | some q =>
      rw [asks, Option.map_some] at forward
      obtain ⟨family, request, rfl⟩ := forward.eq_matchRequested
      have queries : (carryOut env (store.touch op.session) s d).queries = [(s.id, q)] := by
        simp only [carryOut, asks]
        rfl
      refine ⟨by rw [queries]; exact Nat.le_refl 1, fun id q' asked => ?_,
        fun id s' family' stage request' stored waits changed => ?_⟩
      · rw [queries, List.mem_singleton] at asked
        cases asked
        obtain ⟨_, q', query, carries⟩ := decides.asks commits
        cases asks.symm.trans query
        have dispatched := decides.dispatched commits asks
        refine ⟨s, family, q.stage, request, found, rfl, forward.ne_of_asked, ?_, carries,
          dispatched, waitsUntil_of_sent dispatched.timeOut⟩
        rw [get, if_pos rfl]
      · rw [get] at stored
        split at stored
        · rename_i same
          exact ⟨q, same ▸ queries⟩
        · exact absurd stored changed

end Service

/-- For every operation on every store, at most one query is sent. One is sent exactly when a state
is committed that waits for the answer of the matching service. It asks the question of that state
about its identity and with its cycle-3 data, at the address of the identity's matching service for
the question; it has the attributes that the transaction creates accounts from when it asks for an
account, and only then; and it runs out when that state stops waiting. -/
theorem query_describes_commit (env : Environment) (store : Store) (op : Operation) :
    (perform env store op).AsksForState env store op.session := by
  have effect := effect_of_perform env store op
  generalize perform env store op = reply at effect ⊢
  cases effect with
  | opened opens =>
    obtain ⟨_, starts⟩ := Start.state_of_openSession opens
    refine asksForState_of_put _ rfl (fun id => Store.get_put _ _ id) fun _ _ _ waits => ?_
    cases starts.symm.trans waits
  | existence => exact asksForState_of_kept rfl fun _ => rfl
  | level => exact asksForState_of_kept rfl (Store.get_touch _ _)
  | failed _ noTrace => exact asksForState_of_kept noTrace.unasked noTrace.kept
  | @expired _ s =>
    refine asksForState_of_put (s.withState .timedOut) rfl (fun id => ?_) ?_
    · rw [Store.get_put, Store.get_touch]
    · exact fun _ _ _ waits => nomatch waits
  | decided found allowed decides => exact asksForState_of_decided found allowed decides

namespace Sample

/-- A minute later, at the end of the wait period. -/
def soon : Environment :=
  { env with now := minutesIn 1 }

end Sample

/-- The sample's user is told to wait until the query about the user runs out. -/
theorem sample_query_described :
    ∃ q, Sample.authenticating.reply.queries = [(Sample.id, q)] ∧ ¬ q.timeOut < Sample.soon.now ∧
      ∃ details, (perform Sample.soon Sample.authenticating.reply.store
        (.processingDetails Sample.id)).result = .ok (.processing details) ∧
        details.step = .wait := by
  have describes := query_describes_commit Sample.env Sample.choosing.reply.store
    Sample.authenticating.operation
  have chosen : Sample.choosing.reply.store.get Sample.id = .ok (some _) := rfl
  have stored : Sample.authenticating.reply.store.get Sample.id = .ok (some _) := rfl
  obtain ⟨q, asked⟩ := describes.asked Sample.id _ .domestic .cycle01 _ stored rfl
    fun same => nomatch chosen.symm.trans same
  have sent : (Sample.id, q) ∈ Sample.authenticating.reply.queries :=
    asked ▸ List.mem_singleton_self _
  obtain ⟨s, family, stage, request, found, _, _, committed, _, dispatched, waits⟩ :=
    describes.committed Sample.id q sent
  cases chosen.symm.trans found
  cases Except.ok.inj (stored.symm.trans committed)
  have minute : Sample.env.now.add? Sample.minute = some (Sample.minutesIn 1) := rfl
  have timeOut : q.timeOut = Sample.minutesIn 1 :=
    Option.some.inj (dispatched.timeOut.symm.trans minute)
  have lasting : ¬ q.timeOut < Sample.soon.now := by
    rw [timeOut]
    decide
  have told :=
    waits Sample.soon Sample.authenticating.reply.store Sample.id rfl committed (by decide)
  rw [if_neg lasting] at told
  exact ⟨q, asked, lasting, _, told, rfl⟩

end SignInJourney
