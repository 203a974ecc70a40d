import SignInJourney.Data.Members
import SignInJourney.Time.Instant

/-!
The configuration: lengths of time in seconds, where sessions are stored, and how much may wait for
dispatch. Overrides replace single settings; checking finds the first setting that cannot be worked
with.
-/

namespace SignInJourney

open Time

structure Config where
  sessionLength : UInt64
  /-- How long an answer of the matching service is waited for. -/
  waitPeriod : UInt64
  /-- How long the assertions in a query hold. -/
  assertionLifetime : UInt64
  /-- A session found past its deadline is stored as timed out. -/
  storeTimeouts : Bool
  storePath : String
  cleanupInterval : UInt64
  /-- How long a session is kept past its deadline. -/
  retention : UInt64
  serviceName : String
  /-- How many events or queries may wait for dispatch. -/
  channelCapacity : UInt64
  deriving DecidableEq, Repr

namespace Config

def default : Config :=
  { sessionLength := 90 * 60
    waitPeriod := 60
    assertionLifetime := 60 * 60
    storeTimeouts := true
    storePath := "/var/lib/identity-hub/policy-sessions.redb"
    cleanupInterval := 300
    retention := 60 * 60
    serviceName := "policy"
    channelCapacity := 1024 }

instance : Inhabited Config := ⟨default⟩

def names : List String :=
  ["session_length_secs", "matching_service_response_wait_period_secs", "assertion_lifetime_secs",
    "timeout_transitions_to_timeout_state", "session_store_path", "cleanup_interval_secs",
    "expired_session_retention_secs", "service_name", "channel_capacity"]

instance : ToTree Config where
  toTree v := .record
    [("session_length_secs", toTree v.sessionLength),
      ("matching_service_response_wait_period_secs", toTree v.waitPeriod),
      ("assertion_lifetime_secs", toTree v.assertionLifetime),
      ("timeout_transitions_to_timeout_state", toTree v.storeTimeouts),
      ("session_store_path", toTree v.storePath),
      ("cleanup_interval_secs", toTree v.cleanupInterval),
      ("expired_session_retention_secs", toTree v.retention),
      ("service_name", toTree v.serviceName), ("channel_capacity", toTree v.channelCapacity)]

instance : OfTree Config where
  ofTree? e t := do
    let m ← Members.ofTree? e names .closed t
    some
      { sessionLength := ← m.withDefault "session_length_secs" default.sessionLength
        waitPeriod :=
          ← m.withDefault "matching_service_response_wait_period_secs" default.waitPeriod
        assertionLifetime := ← m.withDefault "assertion_lifetime_secs" default.assertionLifetime
        storeTimeouts :=
          ← m.withDefault "timeout_transitions_to_timeout_state" default.storeTimeouts
        storePath := ← m.withDefault "session_store_path" default.storePath
        cleanupInterval := ← m.withDefault "cleanup_interval_secs" default.cleanupInterval
        retention := ← m.withDefault "expired_session_retention_secs" default.retention
        serviceName := ← m.withDefault "service_name" default.serviceName
        channelCapacity := ← m.withDefault "channel_capacity" default.channelCapacity }

end Config

/-- Why a configuration cannot be worked with. -/
inductive ConfigError where
  /-- The setting of this name is zero. -/
  | zero (name : String)
  | noServiceName
  deriving DecidableEq, Repr

namespace ConfigError

def message : ConfigError → String
  | .zero name => name ++ " must be greater than zero"
  | .noServiceName => "service_name is required"

end ConfigError

namespace Config

/-- The first thing wrong with a configuration. -/
def problem? (c : Config) : Option ConfigError :=
  if c.sessionLength = 0 then some (.zero "session_length_secs")
  else if c.waitPeriod = 0 then some (.zero "matching_service_response_wait_period_secs")
  else if c.cleanupInterval = 0 then some (.zero "cleanup_interval_secs")
  else if c.channelCapacity = 0 then some (.zero "channel_capacity")
  else if c.serviceName.isEmpty then some .noServiceName
  else none

/-- A setting as a span of time, if it can be represented. -/
def span? (seconds : UInt64) : Option Span :=
  Span.ofSeconds? seconds.toNat

end Config

/-- Settings that replace others, each if it is given. -/
structure ConfigOverrides where
  sessionLength : Option UInt64
  waitPeriod : Option UInt64
  assertionLifetime : Option UInt64
  storeTimeouts : Option Bool
  storePath : Option String
  cleanupInterval : Option UInt64
  retention : Option UInt64
  serviceName : Option String
  channelCapacity : Option UInt64
  deriving DecidableEq, Repr

namespace ConfigOverrides

/-- A configuration with the given settings replaced. -/
def applyTo (o : ConfigOverrides) (c : Config) : Config :=
  { sessionLength := o.sessionLength.getD c.sessionLength
    waitPeriod := o.waitPeriod.getD c.waitPeriod
    assertionLifetime := o.assertionLifetime.getD c.assertionLifetime
    storeTimeouts := o.storeTimeouts.getD c.storeTimeouts
    storePath := o.storePath.getD c.storePath
    cleanupInterval := o.cleanupInterval.getD c.cleanupInterval
    retention := o.retention.getD c.retention
    serviceName := o.serviceName.getD c.serviceName
    channelCapacity := o.channelCapacity.getD c.channelCapacity }

def names : List String :=
  ["session-length-secs", "matching-service-response-wait-period-secs", "assertion-lifetime-secs",
    "timeout-transitions-to-timeout-state", "session-store-path", "cleanup-interval-secs",
    "expired-session-retention-secs", "service-name", "channel-capacity"]

instance : ToTree ConfigOverrides where
  toTree v := .record
    [("session-length-secs", toTree v.sessionLength),
      ("matching-service-response-wait-period-secs", toTree v.waitPeriod),
      ("assertion-lifetime-secs", toTree v.assertionLifetime),
      ("timeout-transitions-to-timeout-state", toTree v.storeTimeouts),
      ("session-store-path", toTree v.storePath),
      ("cleanup-interval-secs", toTree v.cleanupInterval),
      ("expired-session-retention-secs", toTree v.retention),
      ("service-name", toTree v.serviceName), ("channel-capacity", toTree v.channelCapacity)]

instance : OfTree ConfigOverrides where
  ofTree? e t := do
    let m ← Members.ofTree? e names .lenient t
    some
      { sessionLength := ← m.named "session-length-secs"
        waitPeriod := ← m.named "matching-service-response-wait-period-secs"
        assertionLifetime := ← m.named "assertion-lifetime-secs"
        storeTimeouts := ← m.named "timeout-transitions-to-timeout-state"
        storePath := ← m.named "session-store-path"
        cleanupInterval := ← m.named "cleanup-interval-secs"
        retention := ← m.named "expired-session-retention-secs"
        serviceName := ← m.named "service-name"
        channelCapacity := ← m.named "channel-capacity" }

end ConfigOverrides

end SignInJourney
