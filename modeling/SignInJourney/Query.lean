import SignInJourney.Directory.Basic
import SignInJourney.Session.Document

/-!
Attribute queries: what the matching service is asked about an authenticated user. The answer
arrives later, as an event of its own.
-/

namespace SignInJourney

open Time

namespace Stage

def name : Stage → String
  | .cycle01 => "cycle01"
  | .cycle3 => "cycle3"
  | .accountCreation => "user_account_creation"

instance : Vocabulary Stage where
  all := [.cycle01, .cycle3, .accountCreation]
  word := name
  find_word a := by cases a <;> rfl

end Stage

structure AttributeQuery where
  stage : Stage
  requestId : String
  issuer : String
  consumerUri : String
  /-- The assertions hold until then. -/
  assertionExpiry : Instant
  matchingService : String
  /-- Where the query goes. -/
  uri : String
  /-- The answer is waited for until then. -/
  timeOut : Instant
  onboarding : Bool
  level : Level
  persistentId : String
  assertions : Assertions
  cycle3Dataset : Option Cycle3Dataset
  /-- What an account is to be created from. -/
  accountAttributes : Option (List String)
  deriving DecidableEq

/-- The times that go into a query. -/
structure QueryTiming where
  now : Instant
  waitPeriod : Span
  assertionLifetime : Span
  deriving DecidableEq, Repr

namespace AttributeQuery

/-- Account creation has an address of its own. -/
def addressFor (endpoint : MatchingEndpoint) : Stage → String
  | .accountCreation => endpoint.accountCreationUri
  | .cycle01 | .cycle3 => endpoint.uri

/-- The query about an identity, if its instants can be represented. -/
def of? (stage : Stage) (envelope : Envelope) (identity : Identity) (endpoint : MatchingEndpoint)
    (timing : QueryTiming) : Option AttributeQuery := do
  let assertionExpiry ← timing.now.add? timing.assertionLifetime
  let timeOut ← timing.now.add? timing.waitPeriod
  some
    { stage := stage
      requestId := envelope.requestId
      issuer := envelope.issuer
      consumerUri := envelope.consumerUri
      assertionExpiry := assertionExpiry
      matchingService := identity.matchingService
      uri := addressFor endpoint stage
      timeOut := timeOut
      onboarding := endpoint.onboarding
      level := identity.level
      persistentId := identity.assertions.persistentId
      assertions := identity.assertions
      cycle3Dataset := none
      accountAttributes := none }

def withCycle3Dataset (q : AttributeQuery) (dataset : Option Cycle3Dataset) : AttributeQuery :=
  { q with cycle3Dataset := dataset }

def withAccountAttributes (q : AttributeQuery) (attributes : List String) : AttributeQuery :=
  { q with accountAttributes := some attributes }

def isEidas (q : AttributeQuery) : Bool :=
  q.assertions.family == .eidas

def names : List String :=
  ["kind", "request_id", "authn_request_issuer_entity_id", "assertion_consumer_service_uri",
    "assertion_expiry", "matching_service_entity_id", "attribute_query_uri",
    "matching_service_request_time_out", "onboarding", "level_of_assurance", "persistent_id",
    "assertions", "cycle3_dataset", "user_account_creation_attributes"]

instance : ToTree AttributeQuery where
  toTree v := .record
    [("kind", toTree v.stage), ("request_id", toTree v.requestId),
      ("authn_request_issuer_entity_id", toTree v.issuer),
      ("assertion_consumer_service_uri", toTree v.consumerUri),
      ("assertion_expiry", toTree v.assertionExpiry),
      ("matching_service_entity_id", toTree v.matchingService),
      ("attribute_query_uri", toTree v.uri),
      ("matching_service_request_time_out", toTree v.timeOut),
      ("onboarding", toTree v.onboarding), ("level_of_assurance", toTree v.level),
      ("persistent_id", toTree v.persistentId), ("assertions", toTree v.assertions),
      ("cycle3_dataset", toTree v.cycle3Dataset),
      ("user_account_creation_attributes", toTree v.accountAttributes)]

instance : OfTree AttributeQuery where
  ofTree? e t := do
    let m ← Members.ofTree? e names .lenient t
    some
      { stage := ← m.required "kind"
        requestId := ← m.required "request_id"
        issuer := ← m.required "authn_request_issuer_entity_id"
        consumerUri := ← m.required "assertion_consumer_service_uri"
        assertionExpiry := ← m.required "assertion_expiry"
        matchingService := ← m.required "matching_service_entity_id"
        uri := ← m.required "attribute_query_uri"
        timeOut := ← m.required "matching_service_request_time_out"
        onboarding := ← m.required "onboarding"
        level := ← m.required "level_of_assurance"
        persistentId := ← m.required "persistent_id"
        assertions := ← m.required "assertions"
        cycle3Dataset := ← m.named "cycle3_dataset"
        accountAttributes := ← m.named "user_account_creation_attributes" }

end AttributeQuery

end SignInJourney
