import SignInJourney.Proofs.Service.Served
import SignInJourney.Proofs.Service.Stray

/-!
Whether the times of a configuration fit into the range of instants. A service stays in range for
good exactly if each of them does when it is counted from the end of the year 9999
(`staysInRange_iff`). Checking a configuration does not ask for that (`unchecked_lifetime`).
-/

namespace SignInJourney

open Service Journey Time

theorem Policy.ofConfig?_eq_some {c : Config} {policy : Policy} :
    ofConfig? c = some policy ↔
      Config.span? c.sessionLength = some policy.sessionLength ∧
        Config.span? c.waitPeriod = some policy.waitPeriod ∧
        Config.span? c.assertionLifetime = some policy.assertionLifetime ∧
        policy.storeTimeouts = c.storeTimeouts ∧ policy.serviceName = c.serviceName := by
  simp only [ofConfig?, Option.bind_eq_bind, Option.bind_eq_some_iff, Option.some.injEq]
  constructor
  · rintro ⟨sessionLength, session, waitPeriod, wait, assertionLifetime, assertions, rfl⟩
    exact ⟨session, wait, assertions, rfl, rfl⟩
  · rintro ⟨session, wait, assertions, storing, named⟩
    exact ⟨_, session, _, wait, _, assertions, by rw [← storing, ← named]⟩

namespace Config

variable {c : Config} {n : UInt64} {policy : Policy} {retention : Span}

theorem seconds_span? {span : Span} (spans : span? n = some span) : span.seconds = n.toNat :=
  Span.seconds_ofSeconds? spans

theorem exists_span? (fits : n.toNat ≤ Instant.room) : ∃ span, span? n = some span := by
  unfold Instant.room Instant.lastCurrent lastSecond at fits
  exact Span.exists_ofSeconds? (by omega) (by omega)

/-- A service can be built from the configuration, and from its start on no operation and no sweep
runs out of the range of instants. -/
def StaysInRange (c : Config) : Prop :=
  ∃ policy retention, Policy.ofConfig? c = some policy ∧ span? c.retention = some retention ∧
    ∀ store, Served policy retention store →
      (∀ env op, env.policy = policy → env.now.IsCurrent →
        (perform env store op).result ≠ .error .outOfRange) ∧
      ∀ now, now.IsCurrent → (store.sweep now retention).1.isSome = true

/-- The times in the configuration fit after the year 9999: a session is kept for its length and
then for the retention period, and the others are counted from the present. -/
structure HasRoom (c : Config) : Prop where
  kept : (c.sessionLength.toNat + c.retention.toNat : Int) ≤ Instant.room
  assertions : (c.assertionLifetime.toNat : Int) ≤ Instant.room
  wait : (c.waitPeriod.toNat : Int) ≤ Instant.room

theorem isSome_add?_of_le {t : Instant} {span : Span} (spans : span? n = some span)
    (fits : (n.toNat : Int) ≤ Instant.room) (early : t.seconds ≤ Instant.lastCurrent) :
    (t.add? span).isSome = true := by
  have seconds := seconds_span? spans
  unfold Instant.room at fits
  exact (Instant.isSome_add?_iff (by omega)).mpr (by omega)

theorem HasRoom.environment {env : Environment} (room : c.HasRoom)
    (policed : Policy.ofConfig? c = some env.policy) (current : env.now.IsCurrent) :
    env.HasRoom := by
  obtain ⟨session, wait, assertions, -⟩ := Policy.ofConfig?_eq_some.mp policed
  have present := current.seconds_le
  have kept := room.kept
  exact ⟨isSome_add?_of_le session (by omega) present,
    isSome_add?_of_le assertions room.assertions present,
    isSome_add?_of_le wait room.wait present⟩

/-- Where all times fit nothing runs out of range, since no instant in the store is further off than
the session length. -/
theorem HasRoom.staysInRange (room : c.HasRoom) : c.StaysInRange := by
  have kept := room.kept
  obtain ⟨sessionLength, session⟩ : ∃ span, span? c.sessionLength = some span :=
    exists_span? (by omega)
  obtain ⟨waitPeriod, wait⟩ := exists_span? room.wait
  obtain ⟨assertionLifetime, assertions⟩ := exists_span? room.assertions
  obtain ⟨retention, retains⟩ : ∃ span, span? c.retention = some span := exists_span? (by omega)
  let policy : Policy :=
    ⟨sessionLength, waitPeriod, assertionLifetime, c.storeTimeouts, c.serviceName⟩
  have policed : Policy.ofConfig? c = some policy :=
    Policy.ofConfig?_eq_some.mpr ⟨session, wait, assertions, rfl, rfl⟩
  refine ⟨policy, retention, policed, retains, fun store served => ?_⟩
  have length : policy.sessionLength.seconds = c.sessionLength.toNat := seconds_span? session
  have longer := seconds_span? retains
  obtain ⟨m, keeps, dated⟩ := served.keeps_dated (by omega)
  constructor
  · intro env op same current
    have roomy : env.HasRoom := room.environment (same ▸ policed) current
    refine perform_ne_outOfRange roomy fun s found => ⟨roomy, fun p waits => ?_⟩
    rw [same]
    have here : m op.session = some s := Except.ok.inj ((keeps.get_eq _).symm.trans found)
    exact isSome_add?_of_le wait room.wait ((dated _ s here).sentAt p waits)
  · intro now current
    have all : m.Retainable retention := by
      intro id s here
      have expiry := (dated id s here).expiry
      unfold Instant.room at kept
      exact (Instant.isSome_add?_iff (by omega)).mpr (by omega)
    rw [(keeps.sweep_retainable now all).1]
    rfl

end Config

/-! ### What the limits allow

In the last second of the year 9999 the sample's user gets as far as the query about the user. -/

/-- Another deadline takes no more than MessagePack has a form for. -/
theorem Session.fits_expiry {s : Session} (fits : MessagePack.fits (toTree s)) (expiry : Instant) :
    MessagePack.fits (toTree { s with envelope := { s.envelope with expiry := expiry } }) := by
  have short : MessagePack.fits (.text expiry.text) := by
    simpa [MessagePack.fits] using Instant.utf8ByteSize_text_lt expiry
  simp only [toTree, MessagePack.fits_record, List.forall_mem_cons] at fits ⊢
  simp_all

namespace Sample

/-- The last second of the year 9999. -/
def latest : Instant :=
  (Instant.of? Instant.lastCurrent 0).get (by decide)

theorem isCurrent_latest : latest.IsCurrent := by
  unfold Instant.IsCurrent
  decide +kernel

/-- The sample's circumstances in that second, under another policy. -/
def lateEnv (policy : Policy) : Environment :=
  { env with policy := policy, now := latest }

/-- The sample's session as it is opened, with a deadline. -/
def opened (expiry : Instant) : Session :=
  { envelope := { awaitingAccount.envelope with expiry := expiry }
    state := .sessionStarted [provider.id] }

def request : AuthnRequest :=
  { requestId := "request"
    issuer := transaction.id
    consumerUri := "https://transaction.test/answer"
    forceAuthentication := none
    relayState := none
    ip := "192.0.2.1" }

def selection : ProviderSelection :=
  { provider := provider.id
    matchingService := some matchingService.id
    levels := [.two]
    exactComparison := false
    registering := false
    requested := .two
    available := [provider.id] }

/-- The same session with its user sent to the provider. -/
def chosen (expiry : Instant) : Session :=
  (opened expiry).withState (.providerSelected selection)

def success : ProviderResponse :=
  { issuer := provider.id
    status := .success
    statusMessage := none
    level := some .two
    persistentId := some "user"
    matchingDataset := some "dataset"
    authnStatement := some "statement"
    ipSeenByProvider := none
    fraudEventId := none
    fraudIndicator := none
    notOnOrAfter := none
    ip := "192.0.2.1" }

variable {policy : Policy} {expiry : Instant}

theorem fits_opened (expiry : Instant) : MessagePack.fits (toTree (opened expiry)) :=
  Session.fits_expiry (s := opened env.now) (by decide +kernel) expiry

theorem fits_chosen (expiry : Instant) : MessagePack.fits (toTree (chosen expiry)) :=
  Session.fits_expiry (s := chosen env.now) (by decide +kernel) expiry

theorem inTime_opened (ends : latest.seconds ≤ expiry.seconds) :
    (opened expiry).isExpiredAt latest = false := by
  refine decide_eq_false fun late => ?_
  have early : expiry.seconds < latest.seconds ∨
      expiry.seconds = latest.seconds ∧ expiry.nanos < 0 := late
  omega

theorem get_opened : (Store.empty.put (opened expiry)).get id = .ok (some (opened expiry)) :=
  Store.get_put_self .empty (opened expiry)

/-- The session can be opened only if it ends at an instant. -/
theorem exists_opened
    (inRange : (perform (lateEnv policy) .empty (.createSession id request)).result ≠
      .error .outOfRange) :
    ∃ expiry, latest.add? policy.sessionLength = some expiry ∧
      (perform (lateEnv policy) .empty (.createSession id request)).store =
        Store.empty.put (opened expiry) := by
  have opens : Start.openSession (lateEnv policy) id request =
      Failure.inRange (latest.add? policy.sessionLength) >>= fun expiry => .ok
        { session := opened expiry
          report := .occurrence (opened expiry).envelope (.started request.ip .two .two) } := rfl
  rw [perform] at inRange ⊢
  cases lasts : latest.add? policy.sessionLength with
  | none =>
    rw [lasts] at opens
    rw [createSession_of_fails opens] at inRange
    exact absurd rfl inRange
  | some expiry =>
    rw [lasts] at opens
    rw [createSession_of_opens opens]
    exact ⟨expiry, rfl, rfl⟩

theorem perform_choosing (inTime : (opened expiry).isExpiredAt latest = false) :
    (perform (lateEnv policy) (Store.empty.put (opened expiry)) choosing.operation).store =
      ((Store.empty.put (opened expiry)).touch id).put (chosen expiry) := by
  obtain ⟨d, selects, commits⟩ :
      ∃ d, (ProviderSelection.select (lateEnv policy) (opened expiry)
          { provider := provider.id, ip := "192.0.2.1", registering := false,
            requested := .two }).decision = .ok d ∧
        d.next = some (chosen expiry).state := ⟨_, rfl, rfl⟩
  rw [choosing, perform,
    withSession_of_supports handles_selectProvider.orderly get_opened inTime rfl, silently,
    Conduct.decision_map, selects]
  show (carryOut (lateEnv policy) _ (opened expiry) (d.map fun _ => .done)).store = _
  simp only [carryOut, Decision.map, commits]
  rfl

/-- The query about the user can be made only if its two instants can. -/
theorem isSome_of_success {store : Store} (found : store.get id = .ok (some (chosen expiry)))
    (inTime : (chosen expiry).isExpiredAt latest = false)
    (inRange : (perform (lateEnv policy) store (.providerResponse id success)).result ≠
      .error .outOfRange) :
    (latest.add? policy.assertionLifetime).isSome = true ∧
      (latest.add? policy.waitPeriod).isSome = true := by
  obtain ⟨identity, rest, asks⟩ : ∃ identity rest,
      (ProviderResponse.handle (lateEnv policy) (chosen expiry).envelope selection
          success).decision =
        Failure.inRange (AttributeQuery.of? .cycle01 (chosen expiry).envelope identity
          matchingService (lateEnv policy).queryTiming) >>= rest := by
    have given : success.level = some .two := rfl
    rw [ProviderResponse.handle_of_success given nofun rfl]
    simp only [ProviderResponse.succeed, Conduct.decision_check, Conduct.decision_ite]
    exact ⟨_, _, rfl⟩
  rw [perform_providerResponse found rfl inTime, settle_result, asks] at inRange
  cases made : AttributeQuery.of? .cycle01 (chosen expiry).envelope identity matchingService
      (lateEnv policy).queryTiming with
  | none =>
    rw [made] at inRange
    exact absurd rfl inRange
  | some q => exact AttributeQuery.isSome_of?_iff.mp (Option.isSome_iff_exists.mpr ⟨q, made⟩)

end Sample

namespace Config

variable {c : Config}

theorem le_room {span : Span} {n : UInt64} (spans : span? n = some span)
    (lasts : (Sample.latest.add? span).isSome = true) : (n.toNat : Int) ≤ Instant.room := by
  have seconds := seconds_span? spans
  have sum := (Instant.isSome_add?_iff (by omega)).mp lasts
  have latest : Sample.latest.seconds = Instant.lastCurrent := rfl
  unfold Instant.room
  omega

/-- Where some time does not fit a service fails for the sample's user in the last second of the year
9999. -/
theorem StaysInRange.hasRoom (stays : c.StaysInRange) : c.HasRoom := by
  obtain ⟨policy, retention, policed, retains, serves⟩ := stays
  obtain ⟨session, wait, assertions, -⟩ := Policy.ofConfig?_eq_some.mp policed
  have length := seconds_span? session
  have longer := seconds_span? retains
  have current := Sample.isCurrent_latest
  have latest : Sample.latest.seconds = Instant.lastCurrent := rfl
  -- The session is opened, so it ends at an instant.
  obtain ⟨expiry, lasts, opens⟩ :=
    Sample.exists_opened ((serves .empty .start).1 (Sample.lateEnv policy) _ rfl current)
  have ends := Instant.seconds_add? (by omega) lasts
  have storable := Store.storable_empty.put (Sample.fits_opened expiry)
  have served : Served policy retention (Store.empty.put (Sample.opened expiry)) :=
    opens ▸ .performed _ .start rfl current (opens ▸ storable)
  -- A sweep comes to its end, so the retention period ends at an instant.
  have keeps := Store.keeps_empty.put (Sample.fits_opened expiry)
  have kept : (expiry.add? retention).isSome = true :=
    keeps.retainable_of_sweep ((serves _ served).2 _ current) Sample.id (Sample.opened expiry)
      (Function.update_self ..)
  have sum := (Instant.isSome_add?_iff (by omega)).mp kept
  -- The provider is picked and answers, so the query about the user is made.
  have inTime : (Sample.opened expiry).isExpiredAt Sample.latest = false :=
    Sample.inTime_opened (by omega)
  have asked : Served policy retention
      (((Store.empty.put (Sample.opened expiry)).touch Sample.id).put (Sample.chosen expiry)) := by
    have chosen := (storable.touch Sample.id).put (Sample.fits_chosen expiry)
    rw [← @Sample.perform_choosing policy expiry inTime] at chosen ⊢
    exact .performed _ served rfl current chosen
  have made := Sample.isSome_of_success (Store.get_put_self _ (Sample.chosen expiry)) inTime
    ((serves _ asked).1 (Sample.lateEnv policy) _ rfl current)
  refine ⟨?_, le_room assertions made.1, le_room wait made.2⟩
  unfold Instant.room
  omega

/-- A service never runs out of the range of instants exactly if all its times fit after the year
9999. -/
theorem staysInRange_iff (c : Config) : c.StaysInRange ↔ c.HasRoom :=
  ⟨StaysInRange.hasRoom, HasRoom.staysInRange⟩

example : default.HasRoom :=
  ⟨by decide, by decide, by decide⟩

/-- A lifetime of assertions that no span is as long as. -/
def endless : Config :=
  { default with assertionLifetime := 18446744073709551615 }

/-- A configuration can have no problem and still leave no room. -/
theorem unchecked_lifetime : ¬ ∀ c : Config, c.problem? = none → c.StaysInRange := by
  intro claim
  obtain ⟨policy, _, policed, _⟩ := claim endless rfl
  have unpoliced : Policy.ofConfig? endless = none := rfl
  cases unpoliced.symm.trans policed

end Config

end SignInJourney
