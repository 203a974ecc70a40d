import SignInJourney.Proofs.Directory.Providers
import SignInJourney.Proofs.Service.Levels
import SignInJourney.Proofs.Session.Rank

/-!
The levels that are asked of a party. A provider that the user picks is asked for the requested
level first, unless the transaction takes level 2 and then level 1 and the provider no registrations
(`selected_levels_offered`). Whoever the user is sent to is taken at its word for the levels that it
was asked for, and for no other (`asked_levels_taken`).
-/

namespace SignInJourney

open Service Journey

namespace Directory

variable {d : Directory} {transaction provider : String} {level : Level}

/-- The transaction is registered for level 2 and then level 1, and the provider takes no
registrations for the requested level. -/
def OffersTwoAlone (d : Directory) (transaction provider : String) (requested : Level) : Prop :=
  (∃ t, d.transaction transaction = .ok t ∧ t.levels = [.two, .one]) ∧
    d.isEnabledForRegistration provider transaction requested = .ok false

end Directory

/-- What a choice of a provider has made of a session. -/
structure ProviderSelection.Offers (selected : ProviderSelection) (d : Directory)
    (transaction : String) (choice : ProviderChoice) : Prop where
  provider : selected.provider = choice.provider
  requested : selected.requested = choice.requested
  registering : selected.registering = choice.registering
  wanted : ∀ level ∈ selected.levels,
    d.Registers transaction level ∧ d.Supports choice.provider level
  inOrder : ∀ t, d.transaction transaction = .ok t → selected.levels.tail.Sublist t.levels
  listed : d.ListsOnce choice.provider → d.Supports choice.provider choice.requested
  first : d.Supports choice.provider choice.requested →
    (d.OffersTwoAlone transaction choice.provider choice.requested → choice.requested ≠ .one) →
    selected.levels.head? = some choice.requested
  alone : d.OffersTwoAlone transaction choice.provider choice.requested →
    d.Supports choice.provider .two → selected.levels = [.two]

namespace Journey.ProviderSelection

variable {env : Environment} {s : Session} {choice : ProviderChoice} {selected : ProviderSelection}

theorem offers_of_selection (made : selection env s choice = .ok selected) :
    selected.Offers env.directory s.envelope.issuer choice := by
  obtain ⟨t, p, takes, service, pickable, rfl⟩ := selection_eq_ok.mp made
  constructor
  case provider => rfl
  case requested => rfl
  case registering => rfl
  case wanted =>
    intro level member
    obtain ⟨registered, offered⟩ := mem_of_mem_deliverable (mem_requestedFirst.mp member)
    exact ⟨⟨t, pickable.transaction, registered⟩, p, pickable.provider, offered⟩
  case inOrder =>
    intro t' transaction
    cases pickable.transaction.symm.trans transaction
    exact tail_requestedFirst_sublist.trans deliverable_sublist
  case listed => exact fun once => Directory.supports_of_listsOnce once pickable.available
  case first =>
    rintro ⟨p', provider, offered⟩ unlessOne
    cases pickable.provider.symm.trans provider
    refine head?_requestedFirst (mem_deliverable pickable.registered offered ?_)
    rintro ⟨rfl, both⟩
    exact unlessOne ⟨⟨t, pickable.transaction, both⟩, pickable.registrations⟩
  case alone =>
    rintro ⟨⟨t', transaction, both⟩, none⟩ ⟨p', provider, two⟩
    cases pickable.transaction.symm.trans transaction
    cases pickable.provider.symm.trans provider
    cases pickable.registrations.symm.trans none
    rw [both, deliverable_two_one two, requestedFirst_singleton]

end Journey.ProviderSelection

/-- Whatever the store holds, a choice of a provider that is accepted has the session ask for levels
that the transaction is registered for and the provider has: the requested level and then the others
in the transaction's order, or level 2 alone. -/
theorem selected_levels_offered {env : Environment} {store : Store} {id : SessionId}
    {choice : ProviderChoice}
    (accepted : (perform env store (.selectProvider id choice)).result = .ok .done) :
    ∃ s selected, store.get id = .ok (some s) ∧
      (perform env store (.selectProvider id choice)).store.get s.id =
        .ok (some (s.withState (.providerSelected selected))) ∧
      selected.Offers env.directory s.envelope.issuer choice := by
  obtain ⟨s, d, found, _, decides, _, reply⟩ := decided_of_accepted rfl accepted
  cases decides with
  | @providerSelected _ _ selected made =>
    refine ⟨s, selected, found, ?_, ProviderSelection.offers_of_selection made⟩
    rw [reply]
    exact Store.get_put_self _ (s.withState _)

/-- The sample's provider, which has the requested level, is asked for it first. -/
theorem sample_levels_offered :
    ∃ (s : Session) (selected : ProviderSelection), Sample.choosing.reply.store.get s.id =
        .ok (some (s.withState (.providerSelected selected))) ∧
      selected.levels.head? = some .two := by
  have accepted : Sample.choosing.reply.result = .ok .done := rfl
  obtain ⟨s, selected, _, stored, offers⟩ := selected_levels_offered accepted
  refine ⟨s, selected, stored, offers.first ⟨Sample.provider, rfl, by decide⟩ fun _ => ?_⟩
  decide

namespace Sample

/-- The sample's transaction takes level 2 and then level 1, and its provider no registrations. -/
def wary : Environment :=
  { env with
    directory :=
      .ofDocument
        { transactions := [{ transaction with levels := [.two, .one] }]
          providers := [{ provider with levels := [.one, .two], enabledForRegistration := false }]
          matchingServices := [matchingService]
          countries := [] } }

def landing : Moment :=
  { opening with env := wary }

def lowChoice : ProviderChoice :=
  { provider := provider.id, ip := "192.0.2.1", registering := false, requested := .one }

end Sample

/-- The requested level may be none of those that the provider is asked for. -/
theorem requested_level_dropped :
    ¬ ∀ env store id choice,
      (perform env store (.selectProvider id choice)).result = .ok .done →
        ∃ s selected, store.get id = .ok (some s) ∧
          (perform env store (.selectProvider id choice)).store.get s.id =
            .ok (some (s.withState (.providerSelected selected))) ∧
          selected.levels.head? = some choice.requested := by
  intro first
  obtain ⟨s, selected, found, stored, head⟩ :=
    first Sample.wary Sample.landing.reply.store Sample.id Sample.lowChoice rfl
  have here : Sample.landing.reply.store.get Sample.id = .ok (some _) := rfl
  cases here.symm.trans found
  have left : (perform Sample.wary Sample.landing.reply.store
      (.selectProvider Sample.id Sample.lowChoice)).store.get Sample.id = .ok (some _) := rfl
  cases Except.ok.inj (left.symm.trans stored)
  exact absurd head (by decide)

namespace State

/-- The matching service that the selection of a provider or a country is bound to. -/
def boundService? : State → Option String
  | .providerSelected sel => sel.matchingService
  | .countrySelected sel => sel.matchingService
  | _ => none

/-- The party that the user is with says that the user was authenticated at a level, with everything
else that a success has to have. -/
inductive AnsweredBy (id : SessionId) (level : Level) : State → Operation → Prop
  | provider {sel : ProviderSelection} {r : ProviderResponse} (issuer : r.issuer = sel.provider)
      (status : r.status = .success) (given : r.level = some level)
      (persistentId : r.persistentId.isSome) (matchingDataset : r.matchingDataset.isSome)
      (authnStatement : r.authnStatement.isSome) :
      AnsweredBy id level (.providerSelected sel) (.providerResponse id r)
  | country {sel : CountrySelection} {r : CountryResponse} (issuer : r.issuer = sel.country)
      (status : r.status = .success) (given : r.level = some level)
      (persistentId : r.persistentId.isSome) (identityAssertion : r.identityAssertion.isSome) :
      AnsweredBy id level (.countrySelected sel) (.countryResponse id r)

end State

/-- The session under an id asks its party for some levels, and takes a success with one of them and
no other. -/
structure Session.TakesAsked (env : Environment) (store : Store) (id : SessionId) (s : Session)
    (levels : List Level) : Prop where
  asks : ∃ request, (perform env store (.requestFromHub id)).result = .ok (.request request) ∧
    request.levels = levels
  takes : ∀ op level, s.state.AnsweredBy id level op → level ≠ .x →
    (∀ service, s.state.boundService? = some service → env.CanAsk service) →
    ((∃ action, (perform env store op).result = .ok (.action action)) ↔ level ∈ levels)
  refuses : ∀ op level, s.state.AnsweredBy id level op → level ≠ .x → level ∉ levels →
    (∃ cause, (perform env store op).result = .error (.refused (.invalid cause))) ∧
      NoTrace store (perform env store op)

namespace Service

variable {env : Environment} {store : Store} {id : SessionId} {s : Session} {t : Transaction}

theorem settle_action {decided : Except Failure (Decision ResponseAction)} :
    (∃ action, (settle env store s (decided.map (.map .action))).result = .ok (.action action)) ↔
      ∃ d, decided = .ok d := by
  cases decided with
  | ok d => exact ⟨fun _ => ⟨d, rfl⟩, fun _ => ⟨d.answer, rfl⟩⟩
  | error f => simp [settle, answer, Except.map]

theorem exists_service_of_bound {service? : Option String}
    (bound : service?.isSome = t.usingMatching)
    (ready : ∀ service, service? = some service → env.CanAsk service)
    (usesMatching : t.usingMatching = true) :
    ∃ service, service? = some service ∧ env.CanAsk service := by
  obtain ⟨service, isBound⟩ := Option.isSome_iff_exists.mp (bound.trans usesMatching)
  exact ⟨service, isBound, ready service isBound⟩

theorem takesAsked_of_judged {levels : List Level}
    (asks : ∃ request, (perform env store (.requestFromHub id)).result = .ok (.request request) ∧
      request.levels = levels)
    (judged : ∀ op level, s.state.AnsweredBy id level op → level ≠ .x →
      ∃ decided : Except Failure (Decision ResponseAction), perform env store op =
          settle env (store.touch id) s (decided.map (.map .action)) ∧
        (level ∈ levels → (∀ service, s.state.boundService? = some service → env.CanAsk service) →
          ∃ d, decided = .ok d) ∧
        (level ∉ levels → ∃ cause, decided = .error (.refused (.invalid cause)))) :
    s.TakesAsked env store id levels := by
  constructor
  case asks => exact asks
  case takes =>
    intro op level answered genuine ready
    obtain ⟨decided, performs, takes, refuses⟩ := judged op level answered genuine
    rw [performs, settle_action]
    refine ⟨fun ⟨d, taken⟩ => Decidable.byContradiction fun unacceptable => ?_,
      fun acceptable => takes acceptable ready⟩
    obtain ⟨cause, refused⟩ := refuses unacceptable
    cases taken.symm.trans refused
  case refuses =>
    intro op level answered genuine unacceptable
    obtain ⟨decided, performs, _, refuses⟩ := judged op level answered genuine
    obtain ⟨cause, refused⟩ := refuses unacceptable
    rw [performs, refused]
    exact ⟨⟨cause, rfl⟩, noTrace_answer _ _ _⟩

theorem takesAsked_of_provider {sel : ProviderSelection} (found : store.get id = .ok (some s))
    (stands : s.state = .providerSelected sel) (inTime : s.isExpiredAt env.now = false)
    (transaction : env.directory.transaction s.envelope.issuer = .ok t)
    (enabled : sel.provider ∈
      env.directory.enabledProviders s.envelope.issuer sel.registering sel.requested)
    (supported : ∀ level ∈ sel.levels, env.directory.Supports sel.provider level)
    (bound : sel.matchingService.isSome = t.usingMatching) :
    s.TakesAsked env store id sel.levels := by
  apply takesAsked_of_judged
  · rw [perform_requestFromHub found (by simp [stands]) inTime]
    simp only [requestFromHub, stands]
    exact ⟨_, rfl, rfl⟩
  · intro op level answered genuine
    rw [stands] at answered ⊢
    cases answered with
    | @provider _ r issuer status given persistentId matchingDataset authnStatement =>
      have admitted : ProviderResponse.Admitted env s.envelope sel r sel.requested :=
        ⟨issuer ▸ enabled, issuer⟩
      obtain ⟨pid, persistentId⟩ := Option.isSome_iff_exists.mp persistentId
      obtain ⟨dataset, matchingDataset⟩ := Option.isSome_iff_exists.mp matchingDataset
      obtain ⟨statement, authnStatement⟩ := Option.isSome_iff_exists.mp authnStatement
      refine ⟨_, perform_providerResponse found stands inTime, fun acceptable ready => ?_,
        fun unacceptable => ?_⟩
      · -- The selection has asked for levels that the provider has, so the second check is idle.
        have succeeds :
            ProviderResponse.Succeeds env s.envelope sel r ⟨level, pid, dataset, statement⟩ :=
          ⟨admitted, given, acceptable, issuer ▸ supported level acceptable, persistentId,
            matchingDataset, authnStatement⟩
        rw [ProviderResponse.handle_of_success given genuine status]
        refine ProviderResponse.succeed_of_succeeds succeeds transaction fun usesMatching => ?_
        obtain ⟨service, isBound, can⟩ := exists_service_of_bound bound ready usesMatching
        exact ⟨service, by simp only [ProviderResponse.matchingService, isBound], can⟩
      · rw [ProviderResponse.handle_of_success given genuine status]
        exact ProviderResponse.succeed_of_unacceptable admitted given unacceptable

theorem takesAsked_of_country {sel : CountrySelection} (found : store.get id = .ok (some s))
    (stands : s.state = .countrySelected sel) (inTime : s.isExpiredAt env.now = false)
    (transaction : env.directory.transaction s.envelope.issuer = .ok t)
    (enabled : Country.Enabled env s.envelope.issuer sel.country)
    (bound : sel.matchingService.isSome = t.usingMatching) :
    s.TakesAsked env store id sel.levels := by
  apply takesAsked_of_judged
  · rw [perform_requestFromHub found (by simp [stands]) inTime]
    simp only [requestFromHub, stands]
    exact ⟨_, rfl, rfl⟩
  · intro op level answered _
    rw [stands] at answered ⊢
    cases answered with
    | @country _ r issuer status given persistentId identityAssertion =>
      refine ⟨_, perform_countryResponse found stands inTime, fun acceptable ready => ?_,
        fun unacceptable => ?_⟩
      · obtain ⟨pid, persistentId⟩ := Option.isSome_iff_exists.mp persistentId
        obtain ⟨assertion, identityAssertion⟩ := Option.isSome_iff_exists.mp identityAssertion
        have succeeds : Country.Succeeds sel r ⟨level, pid, assertion⟩ :=
          ⟨persistentId, identityAssertion, given, acceptable⟩
        rw [Country.handle_of_success enabled issuer status]
        refine Country.succeed_of_succeeds succeeds transaction fun usesMatching => ?_
        obtain ⟨service, isBound, can⟩ := exists_service_of_bound bound ready usesMatching
        exact ⟨service, by simp only [Country.matchingService, isBound], can⟩
      · rw [Country.handle_of_success enabled issuer status]
        exact Country.succeed_of_unacceptable persistentId identityAssertion given unacceptable

/-- The session that a choice of a provider leaves, from then on while the directory is the same. -/
theorem takesAsked_of_selection {env₀ : Environment} {choice : ProviderChoice}
    {selected : ProviderSelection} (made : ProviderSelection.selection env₀ s choice = .ok selected)
    (same : env.directory = env₀.directory)
    (found : store.get id = .ok (some (s.withState (.providerSelected selected))))
    (inTime : (s.withState (.providerSelected selected)).isExpiredAt env.now = false) :
    (s.withState (.providerSelected selected)).TakesAsked env store id selected.levels := by
  have offers := ProviderSelection.offers_of_selection made
  obtain ⟨_, _, _, service, pickable, rfl⟩ := ProviderSelection.selection_eq_ok.mp made
  obtain ⟨t, transaction, bound⟩ := Environment.isSome_of_matchingServiceFor pickable.bound
  rw [← same] at offers transaction
  have enabled := pickable.available
  rw [← same] at enabled
  exact takesAsked_of_provider found rfl inTime transaction enabled
    (fun level member => (offers.wanted level member).2) bound

theorem takesAsked_of_enabled {env₀ : Environment} {country : String} {service : Option String}
    (enabled : Country.Enabled env₀ s.envelope.issuer country)
    (bound : env₀.matchingServiceFor s.envelope.issuer = .ok service)
    (same : env.directory = env₀.directory)
    (found : store.get id =
      .ok (some (s.withState (.countrySelected (Country.selection s country service)))))
    (inTime : (s.withState (.countrySelected (Country.selection s country service))).isExpiredAt
      env.now = false) :
    (s.withState (.countrySelected (Country.selection s country service))).TakesAsked env store id
      (Country.selectionLevels s.state) := by
  obtain ⟨t, transaction, bound⟩ := Environment.isSome_of_matchingServiceFor bound
  rw [Country.Enabled, ← same] at enabled
  rw [← same] at transaction
  exact takesAsked_of_country found rfl inTime transaction enabled bound

end Service

/-- The party that the user picks. -/
def Operation.picked? : Operation → Option String
  | .selectProvider _ choice => some choice.provider
  | .selectCountry _ country => some country
  | _ => none

/-- Once the user has picked a party, and while the directory is the same and the session is in
time, a success of that party, with all its parts and a level that is no fraud marker, is taken just
if its level is one of those that the party is asked for, where the matching service that the
session is bound to can be asked. With another level it is invalid and leaves no trace. -/
theorem asked_levels_taken {env₀ : Environment} {store₀ : Store} {op₀ : Operation} {party : String}
    (picks : op₀.picked? = some party)
    (accepted : (perform env₀ store₀ op₀).result = .ok .done) :
    ∃ (s : Session) (state : State) (levels : List Level),
      store₀.get op₀.session = .ok (some s) ∧ state.sentTo? = some party ∧
      (perform env₀ store₀ op₀).store.get s.id = .ok (some (s.withState state)) ∧
      ∀ env store id, env.directory = env₀.directory →
        store.get id = .ok (some (s.withState state)) → ¬ s.envelope.expiry < env.now →
        (s.withState state).TakesAsked env store id levels := by
  have needed : ∃ c, op₀.needed = some c := by
    cases op₀ <;> first
      | exact ⟨_, rfl⟩
      | cases picks
  obtain ⟨c, needed⟩ := needed
  obtain ⟨s, d, found, _, decides, _, reply⟩ := decided_of_accepted needed accepted
  rw [reply]
  cases decides with
  | @providerSelected _ choice selected made =>
    refine ⟨s, .providerSelected selected, selected.levels, found, ?_,
      Store.get_put_self _ (s.withState _), fun env store id same stored inTime => ?_⟩
    · obtain ⟨_, _, _, _, _, rfl⟩ := ProviderSelection.selection_eq_ok.mp made
      exact picks
    · exact takesAsked_of_selection made same stored (decide_eq_false inTime)
  | @countrySelected _ country service enabled bound =>
    refine ⟨s, .countrySelected (Country.selection s country service),
      Country.selectionLevels s.state, found, picks, Store.get_put_self _ (s.withState _),
      fun env store id same stored inTime => ?_⟩
    exact takesAsked_of_enabled enabled bound same stored (decide_eq_false inTime)
  | _ => cases picks

namespace Sample

/-- A success of the sample's provider with less than it was asked for. -/
def weakSuccess : ProviderResponse :=
  { issuer := provider.id
    status := .success
    statusMessage := none
    level := some .one
    persistentId := some "user"
    matchingDataset := some "dataset"
    authnStatement := some "statement"
    ipSeenByProvider := none
    fraudEventId := none
    fraudIndicator := none
    notOnOrAfter := none
    ip := "192.0.2.1" }

end Sample

/-- The success of the sample's provider is taken with level 2, which it was asked for, and is
invalid with level 1. -/
theorem sample_levels_taken :
    (∃ action, Sample.authenticating.reply.result = .ok (.action action)) ∧
    ∃ cause, (perform Sample.env Sample.choosing.reply.store
      (.providerResponse Sample.id Sample.weakSuccess)).result =
        .error (.refused (.invalid cause)) := by
  have picks : Sample.choosing.operation.picked? = some Sample.provider.id := rfl
  have accepted : Sample.choosing.reply.result = .ok .done := rfl
  obtain ⟨s, state, levels, found, _, stored, taken⟩ := asked_levels_taken picks accepted
  have here : Sample.opening.reply.store.get Sample.id = .ok (some _) := rfl
  cases here.symm.trans found
  have takes := taken Sample.env Sample.choosing.reply.store Sample.id rfl stored (by decide)
  have left : Sample.choosing.reply.store.get Sample.id = .ok (some _) := rfl
  cases Except.ok.inj (left.symm.trans stored)
  obtain ⟨request, asked, rfl⟩ := takes.asks
  cases asked
  constructor
  · refine (takes.takes _ .two (.provider rfl rfl rfl rfl rfl rfl) (by decide) ?_).mpr (by decide)
    rintro service ⟨⟩
    exact ⟨⟨_, rfl⟩, rfl, rfl⟩
  · exact (takes.refuses _ .one (.provider rfl rfl rfl rfl rfl rfl) (by decide) (by decide)).1

end SignInJourney
