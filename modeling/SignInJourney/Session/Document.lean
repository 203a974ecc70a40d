import SignInJourney.Data.Members
import SignInJourney.Session.Kind
import SignInJourney.Time.Rfc3339

/-!
Sessions and their parts as trees: the form of stored records and of answers. A state is its kind
alone, or a map from its kind to its contents; assertions are one record with their family as a
member among the others.
-/

namespace SignInJourney

open Time

instance : ToTree Instant := ⟨fun t => .text t.text⟩

instance : OfTree Instant where
  ofTree? _
    | .text s => Instant.ofText? s
    | _ => none

namespace Cycle3Dataset

/-- Names and values, each a text; of values under one name the last counts. -/
def attributes? : List (Tree × Tree) → Option (List (String × String))
  | [] => some []
  | (k, v) :: rest =>
    match k.text?, v.text?, attributes? rest with
    | some name, some value, some others => some ((name, value) :: others)
    | _, _, _ => none

instance : ToTree Cycle3Dataset where
  toTree d := .record [("attributes", .record (d.attributes.entries.map fun a => (a.1, .text a.2)))]

/-- The attributes in a map. -/
structure Attributes where
  entries : Dictionary String

instance : OfTree Attributes where
  ofTree? _
    | .dict entries => (attributes? entries).map fun es => ⟨Dictionary.ofList es⟩
    | _ => none

instance : OfTree Cycle3Dataset where
  ofTree? e t := do
    let m ← Members.ofTree? e ["attributes"] .lenient t
    let attributes : Attributes ← m.required "attributes"
    some { attributes := attributes.entries }

end Cycle3Dataset

namespace Envelope

def names : List String :=
  ["request_id", "request_issuer_entity_id", "session_expiry_timestamp",
    "assertion_consumer_service_uri", "session_id", "transaction_supports_eidas", "relay_state",
    "force_authentication"]

instance : ToTree Envelope where
  toTree v := .record
    [("request_id", toTree v.requestId), ("request_issuer_entity_id", toTree v.issuer),
      ("session_expiry_timestamp", toTree v.expiry),
      ("assertion_consumer_service_uri", toTree v.consumerUri),
      ("session_id", toTree v.sessionId), ("transaction_supports_eidas", toTree v.supportsEidas),
      ("relay_state", toTree v.relayState), ("force_authentication", toTree v.forceAuthentication)]

instance : OfTree Envelope where
  ofTree? e t := do
    let m ← Members.ofTree? e names .lenient t
    some
      { requestId := ← m.required "request_id"
        issuer := ← m.required "request_issuer_entity_id"
        expiry := ← m.required "session_expiry_timestamp"
        consumerUri := ← m.required "assertion_consumer_service_uri"
        sessionId := ← m.required "session_id"
        supportsEidas := ← m.required "transaction_supports_eidas"
        relayState := ← m.withDefault "relay_state" none
        forceAuthentication := ← m.withDefault "force_authentication" none }

end Envelope

namespace Family

instance : Vocabulary Family where
  all := [.domestic, .eidas]
  word
    | .domestic => "domestic"
    | .eidas => "eidas"
  find_word a := by cases a <;> rfl

end Family

namespace Assertions

/-- The member that holds the family. -/
def tag : String := "journey"

def names : Family → List String
  | .domestic =>
    ["encrypted_matching_dataset_assertion", "authn_statement_assertion", "persistent_id"]
  | .eidas => ["encrypted_identity_assertion", "persistent_id"]

instance : ToTree Assertions where
  toTree
    | .domestic dataset statement pid => .record
      [(tag, toTree Family.domestic), ("encrypted_matching_dataset_assertion", toTree dataset),
        ("authn_statement_assertion", toTree statement), ("persistent_id", toTree pid)]
    | .eidas identity pid => .record
      [(tag, toTree Family.eidas), ("encrypted_identity_assertion", toTree identity),
        ("persistent_id", toTree pid)]

/-- A name that is the tag's, as a text or as its bytes. -/
def isTag (k : Tree) : Bool :=
  k.text? == some tag

/-- The family in a map and the other entries; the tag may be given once. -/
def splitTag : List (Tree × Tree) → Option (Option Tree × List (Tree × Tree))
  | [] => some (none, [])
  | (k, v) :: rest =>
    match splitTag rest with
    | none => none
    | some (found, others) =>
      if isTag k then (if found.isSome then none else some (some v, others))
      else some (found, (k, v) :: others)

/-- Numbers of 16 and 32 bits name no member here. -/
def namedPlainly : Tree → Bool
  | .uint _ bits => bits == 8 || bits == 64
  | _ => true

/-- The family and the rest of the record. -/
def untag? : Tree → Option (Tree × Tree)
  | .list (tag :: items) => some (tag, .list items)
  | .dict entries =>
    match splitTag entries with
    | some (some tag, others) =>
      if others.all fun e => namedPlainly e.1 then some (tag, .dict others) else none
    | _ => none
  | _ => none

/-- The whole record is read before its family is known, so nothing in it may be flawed. -/
instance : OfTree Assertions where
  ofTree? e t := do
    let (tag, rest) ← if t.sound then untag? t else none
    let family : Family ← Vocabulary.ofName? e tag
    match family with
    | .domestic => do
      let m ← Members.ofTree? e (names .domestic) .lenient rest
      some (.domestic (← m.required "encrypted_matching_dataset_assertion")
        (← m.required "authn_statement_assertion") (← m.required "persistent_id"))
    | .eidas => do
      let m ← Members.ofTree? e (names .eidas) .lenient rest
      some (.eidas (← m.required "encrypted_identity_assertion") (← m.required "persistent_id"))

end Assertions

namespace Identity

def names : List String :=
  ["identity_provider_entity_id", "level_of_assurance", "matching_service_entity_id",
    "registering", "assertions"]

instance : ToTree Identity where
  toTree v := .record
    [("identity_provider_entity_id", toTree v.provider), ("level_of_assurance", toTree v.level),
      ("matching_service_entity_id", toTree v.matchingService),
      ("registering", toTree v.registering), ("assertions", toTree v.assertions)]

instance : OfTree Identity where
  ofTree? e t := do
    let m ← Members.ofTree? e names .lenient t
    some
      { provider := ← m.required "identity_provider_entity_id"
        level := ← m.required "level_of_assurance"
        matchingService := ← m.required "matching_service_entity_id"
        registering := ← m.withDefault "registering" false
        assertions := ← m.required "assertions" }

end Identity

namespace ProviderSelection

def names : List String :=
  ["idp_entity_id", "matching_service_entity_id", "levels_of_assurance",
    "use_exact_comparison_type", "registering", "requested_loa", "available_identity_providers"]

instance : ToTree ProviderSelection where
  toTree v := .record
    [("idp_entity_id", toTree v.provider), ("matching_service_entity_id", toTree v.matchingService),
      ("levels_of_assurance", toTree v.levels),
      ("use_exact_comparison_type", toTree v.exactComparison),
      ("registering", toTree v.registering), ("requested_loa", toTree v.requested),
      ("available_identity_providers", toTree v.available)]

instance : OfTree ProviderSelection where
  ofTree? e t := do
    let m ← Members.ofTree? e names .lenient t
    some
      { provider := ← m.required "idp_entity_id"
        matchingService := ← m.withDefault "matching_service_entity_id" none
        levels := ← m.required "levels_of_assurance"
        exactComparison := ← m.withDefault "use_exact_comparison_type" false
        registering := ← m.required "registering"
        requested := ← m.required "requested_loa"
        available := ← m.withDefault "available_identity_providers" [] }

end ProviderSelection

namespace CountrySelection

def names : List String :=
  ["country_entity_id", "levels_of_assurance", "matching_service_entity_id"]

instance : ToTree CountrySelection where
  toTree v := .record
    [("country_entity_id", toTree v.country), ("levels_of_assurance", toTree v.levels),
      ("matching_service_entity_id", toTree v.matchingService)]

instance : OfTree CountrySelection where
  ofTree? e t := do
    let m ← Members.ofTree? e names .lenient t
    some
      { country := ← m.required "country_entity_id"
        levels := ← m.required "levels_of_assurance"
        matchingService := ← m.withDefault "matching_service_entity_id" none }

end CountrySelection

namespace MatchRequest

def names : List String :=
  ["identity", "request_sent_time", "cycle3_dataset"]

instance : ToTree MatchRequest where
  toTree v := .record
    [("identity", toTree v.identity), ("request_sent_time", toTree v.sentAt),
      ("cycle3_dataset", toTree v.cycle3Dataset)]

instance : OfTree MatchRequest where
  ofTree? e t := do
    let m ← Members.ofTree? e names .lenient t
    some
      { identity := ← m.required "identity"
        sentAt := ← m.required "request_sent_time"
        cycle3Dataset := ← m.withDefault "cycle3_dataset" none }

end MatchRequest

namespace MatchOutcome

def names : List String :=
  ["identity_provider_entity_id", "matching_service_assertion", "level_of_assurance", "registering"]

instance : ToTree MatchOutcome where
  toTree v := .record
    [("identity_provider_entity_id", toTree v.provider),
      ("matching_service_assertion", toTree v.assertion), ("level_of_assurance", toTree v.level),
      ("registering", toTree v.registering)]

instance : OfTree MatchOutcome where
  ofTree? e t := do
    let m ← Members.ofTree? e names .lenient t
    some
      { provider := ← m.required "identity_provider_entity_id"
        assertion := ← m.required "matching_service_assertion"
        level := ← m.required "level_of_assurance"
        registering := ← m.withDefault "registering" false }

end MatchOutcome

namespace State

/-- The contents of a state that names a party and nothing else. -/
def partyTree (party : String) : Tree :=
  .record [("identity_provider_entity_id", .text party)]

def party? (e : Encoding) (t : Tree) : Option String := do
  let m ← Members.ofTree? e ["identity_provider_entity_id"] .lenient t
  m.required "identity_provider_entity_id"

def startedTree (providers : List String) : Tree :=
  .record [("available_identity_providers", toTree providers)]

def started? (e : Encoding) (t : Tree) : Option (List String) := do
  let m ← Members.ofTree? e ["available_identity_providers"] .lenient t
  m.withDefault "available_identity_providers" []

def countryFailureTree (country : String) (levels : List Level) : Tree :=
  .record [("country_entity_id", toTree country), ("levels_of_assurance", toTree levels)]

def countryFailure? (e : Encoding) (t : Tree) : Option (String × List Level) := do
  let m ← Members.ofTree? e ["country_entity_id", "levels_of_assurance"] .lenient t
  let country ← m.required "country_entity_id"
  let levels ← m.required "levels_of_assurance"
  some (country, levels)

def awaitingTree (identity : Identity) : Tree :=
  .record [("identity", toTree identity)]

def awaiting? (e : Encoding) (t : Tree) : Option Identity := do
  let m ← Members.ofTree? e ["identity"] .lenient t
  m.required "identity"

def assertionsTree (assertions : List String) : Tree :=
  .record [("encrypted_assertions", toTree assertions)]

def assertions? (e : Encoding) (t : Tree) : Option (List String) := do
  let m ← Members.ofTree? e ["encrypted_assertions"] .lenient t
  m.required "encrypted_assertions"

/-- What a state holds besides its kind. -/
def contents : State → Option Tree
  | .sessionStarted providers => some (startedTree providers)
  | .providerSelected s => some (toTree s)
  | .authnFailed party | .fraudDetected party | .eidasAccountCreationFailed party
  | .unmatched party | .matchingFailed party => some (partyTree party)
  | .countrySelected s => some (toTree s)
  | .countryAuthnFailed country levels => some (countryFailureTree country levels)
  | .matchRequested _ _ r => some (toTree r)
  | .awaitingCycle3 _ i => some (awaitingTree i)
  | .accountCreated o | .matched _ o => some (toTree o)
  | .nonMatchingSuccess assertions => some (assertionsTree assertions)
  | .requesterError | .registrationPaused | .cycle3Cancelled | .accountCreationFailed
  | .timedOut => none

instance : ToTree State where
  toTree s :=
    match s.contents with
    | some t => .record [(s.kind.name, t)]
    | none => .text s.kind.name

/-- The state of a kind that holds nothing. -/
def ofKind? : StateKind → Option State
  | .requesterError => some .requesterError
  | .pausedRegistration => some .registrationPaused
  | .cycle3DataInputCancelled => some .cycle3Cancelled
  | .userAccountCreationFailed => some .accountCreationFailed
  | .timeout => some .timedOut
  | _ => none

/-- The state of a kind with contents; a kind that holds nothing takes null. -/
def ofContents? (e : Encoding) (t : Tree) : StateKind → Option State
  | .sessionStarted => (started? e t).map .sessionStarted
  | .idpSelected => (ofTree? e t).map .providerSelected
  | .authnFailedError => (party? e t).map .authnFailed
  | .fraudEventDetected => (party? e t).map .fraudDetected
  | .eidasCountrySelected => (ofTree? e t).map .countrySelected
  | .eidasAuthnFailedError => (countryFailure? e t).map fun (c, ls) => .countryAuthnFailed c ls
  | .cycle0And1MatchRequestSent => (ofTree? e t).map (.matchRequested .domestic .cycle01)
  | .eidasCycle0And1MatchRequestSent => (ofTree? e t).map (.matchRequested .eidas .cycle01)
  | .awaitingCycle3Data => (awaiting? e t).map (.awaitingCycle3 .domestic)
  | .eidasAwaitingCycle3Data => (awaiting? e t).map (.awaitingCycle3 .eidas)
  | .cycle3MatchRequestSent => (ofTree? e t).map (.matchRequested .domestic .cycle3)
  | .eidasCycle3MatchRequestSent => (ofTree? e t).map (.matchRequested .eidas .cycle3)
  | .userAccountCreationRequestSent =>
    (ofTree? e t).map (.matchRequested .domestic .accountCreation)
  | .eidasUserAccountCreationRequestSent =>
    (ofTree? e t).map (.matchRequested .eidas .accountCreation)
  | .userAccountCreated => (ofTree? e t).map .accountCreated
  | .eidasUserAccountCreationFailed => (party? e t).map .eidasAccountCreationFailed
  | .successfulMatch => (ofTree? e t).map (.matched .domestic)
  | .eidasSuccessfulMatch => (ofTree? e t).map (.matched .eidas)
  | .noMatch => (party? e t).map .unmatched
  | .nonMatchingJourneySuccess => (assertions? e t).map .nonMatchingSuccess
  | .matchingServiceRequestError => (party? e t).map .matchingFailed
  | kind =>
    match t with
    | .null => ofKind? kind
    | _ => none

instance : OfTree State where
  ofTree? e t :=
    match Vocabulary.variant? e t with
    | some (kind, some contents) => ofContents? e contents kind
    | some (kind, none) => ofKind? kind
    | none => none

end State

instance : ToTree Session where
  toTree s := .record [("envelope", toTree s.envelope), ("state", toTree s.state)]

instance : OfTree Session where
  ofTree? e t := do
    let m ← Members.ofTree? e ["envelope", "state"] .lenient t
    some { envelope := ← m.required "envelope", state := ← m.required "state" }

end SignInJourney
