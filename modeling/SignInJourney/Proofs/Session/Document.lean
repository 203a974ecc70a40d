import SignInJourney.Proofs.Data.Dictionary
import SignInJourney.Proofs.Data.Members
import SignInJourney.Proofs.Session.Id
import SignInJourney.Proofs.Time.Rfc3339
import SignInJourney.Session.Document

/-!
Sessions and their parts read back from their trees. For each record `ofTree?_record` reads it from
any members that `Gives` its own, and `textual` says what its tree is made of; `Faithful` and
`Textual` then hold of states and of whole sessions.
-/

namespace SignInJourney

open Time SignInJourney.Tree

instance : Faithful Instant where
  ofTree?_toTree _ t := Instant.ofText?_text t
  toTree_ne_null _ := nofun

instance : Faithful SessionId where
  ofTree?_toTree _ id := SessionId.ofHex?_hex id
  toTree_ne_null _ := nofun

theorem textual_option {α : Type} [ToTree α] {levels : Nat} {a? : Option α}
    (textual : ∀ a : α, Textual levels (toTree a)) : Textual levels (toTree a?) := by
  cases a? with
  | none => exact .null
  | some a => exact textual a

theorem textual_list {α : Type} [ToTree α] {levels : Nat} {as : List α}
    (textual : ∀ a : α, Textual levels (toTree a)) : Textual (levels + 1) (toTree as) := by
  refine .list fun t member => ?_
  obtain ⟨a, -, rfl⟩ := List.mem_map.mp member
  exact textual a

variable {e : Encoding} {given : List (String × Tree)}

namespace Cycle3Dataset

theorem attributes?_named (attributes : List (String × String)) :
    attributes? (named (attributes.map fun a => (a.1, .text a.2))) = some attributes := by
  induction attributes with
  | nil => rfl
  | cons a rest ih => simp only [List.map_cons, named_cons, attributes?, Tree.text?, ih]

theorem textual (d : Cycle3Dataset) : Textual 2 (toTree d) := by
  have once := d.attributes.nodup_keys
  refine .record (by simp) ?_
  rw [List.forall_mem_singleton]
  refine .record (by simpa [Function.comp_def] using once) fun m member => ?_
  obtain ⟨a, -, rfl⟩ := List.mem_map.mp member
  exact .text a.2

instance : Faithful Cycle3Dataset where
  ofTree?_toTree e d := by
    have attributes : (ofTree? e (.record (d.attributes.entries.map fun a => (a.1, .text a.2))) :
        Option Attributes) = some ⟨d.attributes⟩ := by
      rw [record_eq]
      simp only [ofTree?, attributes?_named, Option.map_some, Dictionary.ofList_entries]
    simp only [toTree, ofTree?]
    rw [Members.ofTree?_record (by simp) (by simp)]
    simp [Members.required, attributes]
  toTree_ne_null _ := nofun

end Cycle3Dataset

namespace Envelope

theorem textual (v : Envelope) : Textual 1 (toTree v) := by
  refine .record (show names.Nodup by decide) ?_
  simp only [List.forall_mem_cons]
  exact ⟨.text _, .text _, .text _, .text _, .text _, .bool _, textual_option .text,
    textual_option .bool, nofun⟩

theorem ofTree?_record {v : Envelope} (gives : Gives given (toTree v).members) :
    ofTree? e (.record given) = some v := by
  simp only [ofTree?, gives.ofTree?_record (show _ = names from rfl), Option.bind_eq_bind,
    Option.bind_some, gives.required "request_id" v.requestId rfl,
    gives.required "request_issuer_entity_id" v.issuer rfl,
    gives.required "session_expiry_timestamp" v.expiry rfl,
    gives.required "assertion_consumer_service_uri" v.consumerUri rfl,
    gives.required "session_id" v.sessionId rfl,
    gives.required "transaction_supports_eidas" v.supportsEidas rfl,
    gives.optional "relay_state" v.relayState rfl,
    gives.optional "force_authentication" v.forceAuthentication rfl]

instance : Faithful Envelope where
  ofTree?_toTree _ _ := ofTree?_record (.refl (show names.Nodup by decide))
  toTree_ne_null _ := nofun

end Envelope

namespace Assertions

theorem textual (a : Assertions) : Textual 1 (toTree a) := by
  cases a with
  | domestic dataset statement pid =>
    refine .record (show (tag :: names .domestic).Nodup by decide) ?_
    simp only [List.forall_mem_cons]
    exact ⟨.text _, .text _, .text _, .text _, nofun⟩
  | eidas identity pid =>
    refine .record (show (tag :: names .eidas).Nodup by decide) ?_
    simp only [List.forall_mem_cons]
    exact ⟨.text _, .text _, .text _, nofun⟩

theorem splitTag_named {ms : List (String × Tree)} (untagged : tag ∉ ms.map Prod.fst) :
    splitTag (named ms) = some (none, named ms) := by
  induction ms with
  | nil => rfl
  | cons m rest ih =>
    simp only [List.map_cons, List.mem_cons, not_or] at untagged
    have other : isTag (.text m.1) = false := by
      simpa [isTag, Tree.text?] using Ne.symm untagged.1
    simp [splitTag, ih untagged.2, other]

/-- A tag in front of a record that has no other is taken off. -/
theorem untag?_record {ms : List (String × Tree)} (family : Tree)
    (untagged : tag ∉ ms.map Prod.fst) :
    untag? (.record ((tag, family) :: ms)) = some (family, .record ms) := by
  have own : isTag (.text tag) = true := by simp [isTag, Tree.text?]
  have plainly : ((named ms).all fun entry => namedPlainly entry.1) = true := by
    simp [named, Tree.member, namedPlainly]
  rw [record_eq, named_cons]
  simp [untag?, splitTag, splitTag_named untagged, own, plainly, record_eq]

/-- The members besides the tag. -/
def untagged : Assertions → List (String × Tree)
  | .domestic dataset statement pid =>
    [("encrypted_matching_dataset_assertion", toTree dataset),
      ("authn_statement_assertion", toTree statement), ("persistent_id", toTree pid)]
  | .eidas identity pid =>
    [("encrypted_identity_assertion", toTree identity), ("persistent_id", toTree pid)]

theorem toTree_eq (a : Assertions) :
    toTree a = .record ((tag, toTree a.family) :: a.untagged) := by
  cases a <;> rfl

theorem names_untagged (a : Assertions) : a.untagged.map Prod.fst = names a.family := by
  cases a <;> rfl

theorem untag?_toTree (a : Assertions) :
    untag? (toTree a) = some (toTree a.family, .record a.untagged) := by
  have untagged : tag ∉ a.untagged.map Prod.fst := by
    rw [names_untagged]
    cases a.family <;> decide
  rw [toTree_eq, untag?_record _ untagged]

instance : Faithful Assertions where
  ofTree?_toTree e a := by
    have once : (a.untagged.map Prod.fst).Nodup := by
      rw [names_untagged]
      cases a.family <;> decide
    have gives := Gives.refl once
    have family : Vocabulary.ofName? e (toTree a.family) = some a.family :=
      Vocabulary.ofWord?_word a.family
    simp only [ofTree?, a.textual.sound, if_true, untag?_toTree, Option.bind_eq_bind,
      Option.bind_some, family]
    cases a with
    | domestic dataset statement pid =>
      simp only [Assertions.family, gives.ofTree?_record (show _ = names .domestic from rfl),
        Option.bind_some, gives.required "encrypted_matching_dataset_assertion" dataset rfl,
        gives.required "authn_statement_assertion" statement rfl,
        gives.required "persistent_id" pid rfl]
    | eidas identity pid =>
      simp only [Assertions.family, gives.ofTree?_record (show _ = names .eidas from rfl),
        Option.bind_some, gives.required "encrypted_identity_assertion" identity rfl,
        gives.required "persistent_id" pid rfl]
  toTree_ne_null a := by cases a <;> nofun

end Assertions

namespace Identity

theorem textual (v : Identity) : Textual 2 (toTree v) := by
  refine .record (show names.Nodup by decide) ?_
  simp only [List.forall_mem_cons]
  exact ⟨.text _, .text _, .text _, .bool _, v.assertions.textual, nofun⟩

theorem ofTree?_record {v : Identity} (gives : Gives given (toTree v).members) :
    ofTree? e (.record given) = some v := by
  simp only [ofTree?, gives.ofTree?_record (show _ = names from rfl), Option.bind_eq_bind,
    Option.bind_some, gives.required "identity_provider_entity_id" v.provider rfl,
    gives.required "level_of_assurance" v.level rfl,
    gives.required "matching_service_entity_id" v.matchingService rfl,
    gives.withDefault "registering" v.registering false rfl,
    gives.required "assertions" v.assertions rfl]

instance : Faithful Identity where
  ofTree?_toTree _ _ := ofTree?_record (.refl (show names.Nodup by decide))
  toTree_ne_null _ := nofun

end Identity

namespace ProviderSelection

theorem textual (v : ProviderSelection) : Textual 2 (toTree v) := by
  refine .record (show names.Nodup by decide) ?_
  simp only [List.forall_mem_cons]
  exact ⟨.text _, textual_option .text, textual_list fun l => .text l.name, .bool _, .bool _,
    .text _, textual_list .text, nofun⟩

theorem ofTree?_record {v : ProviderSelection} (gives : Gives given (toTree v).members) :
    ofTree? e (.record given) = some v := by
  simp only [ofTree?, gives.ofTree?_record (show _ = names from rfl), Option.bind_eq_bind,
    Option.bind_some, gives.required "idp_entity_id" v.provider rfl,
    gives.optional "matching_service_entity_id" v.matchingService rfl,
    gives.required "levels_of_assurance" v.levels rfl,
    gives.withDefault "use_exact_comparison_type" v.exactComparison false rfl,
    gives.required "registering" v.registering rfl,
    gives.required "requested_loa" v.requested rfl,
    gives.withDefault "available_identity_providers" v.available [] rfl]

instance : Faithful ProviderSelection where
  ofTree?_toTree _ _ := ofTree?_record (.refl (show names.Nodup by decide))
  toTree_ne_null _ := nofun

end ProviderSelection

namespace CountrySelection

theorem textual (v : CountrySelection) : Textual 2 (toTree v) := by
  refine .record (show names.Nodup by decide) ?_
  simp only [List.forall_mem_cons]
  exact ⟨.text _, textual_list fun l => .text l.name, textual_option .text, nofun⟩

theorem ofTree?_record {v : CountrySelection} (gives : Gives given (toTree v).members) :
    ofTree? e (.record given) = some v := by
  simp only [ofTree?, gives.ofTree?_record (show _ = names from rfl), Option.bind_eq_bind,
    Option.bind_some, gives.required "country_entity_id" v.country rfl,
    gives.required "levels_of_assurance" v.levels rfl,
    gives.optional "matching_service_entity_id" v.matchingService rfl]

end CountrySelection

namespace MatchRequest

theorem textual (v : MatchRequest) : Textual 3 (toTree v) := by
  refine .record (show names.Nodup by decide) ?_
  simp only [List.forall_mem_cons]
  exact ⟨v.identity.textual, .text _, textual_option Cycle3Dataset.textual, nofun⟩

theorem ofTree?_record {v : MatchRequest} (gives : Gives given (toTree v).members) :
    ofTree? e (.record given) = some v := by
  simp only [ofTree?, gives.ofTree?_record (show _ = names from rfl), Option.bind_eq_bind,
    Option.bind_some, gives.required "identity" v.identity rfl,
    gives.required "request_sent_time" v.sentAt rfl,
    gives.optional "cycle3_dataset" v.cycle3Dataset rfl]

end MatchRequest

namespace MatchOutcome

theorem textual (v : MatchOutcome) : Textual 1 (toTree v) := by
  refine .record (show names.Nodup by decide) ?_
  simp only [List.forall_mem_cons]
  exact ⟨.text _, .text _, .text _, .bool _, nofun⟩

theorem ofTree?_record {v : MatchOutcome} (gives : Gives given (toTree v).members) :
    ofTree? e (.record given) = some v := by
  simp only [ofTree?, gives.ofTree?_record (show _ = names from rfl), Option.bind_eq_bind,
    Option.bind_some, gives.required "identity_provider_entity_id" v.provider rfl,
    gives.required "matching_service_assertion" v.assertion rfl,
    gives.required "level_of_assurance" v.level rfl,
    gives.withDefault "registering" v.registering false rfl]

end MatchOutcome

namespace State

variable {party country : String} {levels : List Level} {identity : Identity}

theorem party?_record (gives : Gives given (partyTree party).members) :
    party? e (.record given) = some party := by
  simp only [party?, gives.ofTree?_record (show _ = ["identity_provider_entity_id"] from rfl),
    Option.bind_eq_bind, Option.bind_some, gives.required "identity_provider_entity_id" party rfl]

theorem started?_record {providers : List String}
    (gives : Gives given (startedTree providers).members) :
    started? e (.record given) = some providers := by
  simp only [started?, gives.ofTree?_record (show _ = ["available_identity_providers"] from rfl),
    Option.bind_eq_bind, Option.bind_some,
    gives.withDefault "available_identity_providers" providers [] rfl]

theorem countryFailure?_record (gives : Gives given (countryFailureTree country levels).members) :
    countryFailure? e (.record given) = some (country, levels) := by
  simp only [countryFailure?,
    gives.ofTree?_record (show _ = ["country_entity_id", "levels_of_assurance"] from rfl),
    Option.bind_eq_bind, Option.bind_some, gives.required "country_entity_id" country rfl,
    gives.required "levels_of_assurance" levels rfl]

theorem awaiting?_record (gives : Gives given (awaitingTree identity).members) :
    awaiting? e (.record given) = some identity := by
  simp only [awaiting?, gives.ofTree?_record (show _ = ["identity"] from rfl),
    Option.bind_eq_bind, Option.bind_some, gives.required "identity" identity rfl]

/-- The identity of an awaiting user may itself have its members in any order. -/
theorem awaiting?_identity (gives : Gives given (toTree identity).members) :
    awaiting? e (.record [("identity", .record given)]) = some identity := by
  have read : (ofTree? e (.record given) : Option Identity) = some identity :=
    Identity.ofTree?_record gives
  rw [awaiting?, Members.ofTree?_record (by simp) (by simp)]
  simp [Members.required, read]

theorem assertions?_record {assertions : List String}
    (gives : Gives given (assertionsTree assertions).members) :
    assertions? e (.record given) = some assertions := by
  simp only [assertions?, gives.ofTree?_record (show _ = ["encrypted_assertions"] from rfl),
    Option.bind_eq_bind, Option.bind_some, gives.required "encrypted_assertions" assertions rfl]

/-- A state without contents is its kind. -/
theorem ofKind?_kind {s : State} (empty : s.contents = none) : ofKind? s.kind = some s := by
  cases s with
  | requesterError | registrationPaused | cycle3Cancelled | accountCreationFailed | timedOut => rfl
  | _ => cases empty

/-- A state is read from its kind and from any members that give its contents. -/
theorem ofContents?_record {s : State} {t : Tree} (holds : s.contents = some t)
    (gives : Gives given t.members) : ofContents? e (.record given) s.kind = some s := by
  cases s with
  | sessionStarted => cases holds; simp [ofContents?, kind, started?_record gives]
  | providerSelected =>
    cases holds
    simp [ofContents?, kind, ProviderSelection.ofTree?_record gives]
  | authnFailed => cases holds; simp [ofContents?, kind, party?_record gives]
  | fraudDetected => cases holds; simp [ofContents?, kind, party?_record gives]
  | countrySelected => cases holds; simp [ofContents?, kind, CountrySelection.ofTree?_record gives]
  | countryAuthnFailed => cases holds; simp [ofContents?, kind, countryFailure?_record gives]
  | matchRequested family stage request =>
    cases holds
    cases family <;> cases stage <;> simp [ofContents?, kind, MatchRequest.ofTree?_record gives]
  | awaitingCycle3 family identity =>
    cases holds
    cases family <;> simp [ofContents?, kind, awaiting?_record gives]
  | accountCreated => cases holds; simp [ofContents?, kind, MatchOutcome.ofTree?_record gives]
  | eidasAccountCreationFailed => cases holds; simp [ofContents?, kind, party?_record gives]
  | matched family outcome =>
    cases holds
    cases family <;> simp [ofContents?, kind, MatchOutcome.ofTree?_record gives]
  | unmatched => cases holds; simp [ofContents?, kind, party?_record gives]
  | nonMatchingSuccess => cases holds; simp [ofContents?, kind, assertions?_record gives]
  | matchingFailed => cases holds; simp [ofContents?, kind, party?_record gives]
  | _ => cases holds

theorem textual_contents {s : State} {t : Tree} (holds : s.contents = some t) : Textual 3 t := by
  have textual_party (party : String) : Textual 3 (partyTree party) :=
    .record (by simp) (List.forall_mem_singleton.mpr (.text party))
  cases s with
  | sessionStarted providers =>
    cases holds
    exact .record (by simp) (List.forall_mem_singleton.mpr (textual_list .text))
  | providerSelected selection => cases holds; exact selection.textual.mono (by decide)
  | authnFailed party => cases holds; exact textual_party party
  | fraudDetected party => cases holds; exact textual_party party
  | countrySelected selection => cases holds; exact selection.textual.mono (by decide)
  | countryAuthnFailed country levels =>
    cases holds
    refine .record (by simp) ?_
    simp only [List.forall_mem_cons]
    exact ⟨.text _, textual_list fun l => .text l.name, nofun⟩
  | matchRequested family stage request => cases holds; exact request.textual
  | awaitingCycle3 family identity =>
    cases holds
    exact .record (by simp) (List.forall_mem_singleton.mpr identity.textual)
  | accountCreated outcome => cases holds; exact outcome.textual.mono (by decide)
  | eidasAccountCreationFailed country => cases holds; exact textual_party country
  | matched family outcome => cases holds; exact outcome.textual.mono (by decide)
  | unmatched provider => cases holds; exact textual_party provider
  | nonMatchingSuccess assertions =>
    cases holds
    exact .record (by simp) (List.forall_mem_singleton.mpr (textual_list .text))
  | matchingFailed provider => cases holds; exact textual_party provider
  | _ => cases holds

theorem contents_eq_record {s : State} {t : Tree} (holds : s.contents = some t) :
    t = .record t.members := by
  cases s with
  | requesterError | registrationPaused | cycle3Cancelled | accountCreationFailed | timedOut =>
    cases holds
  | _ => cases holds; rfl

theorem toTree_of_contents {s : State} {t : Tree} (holds : s.contents = some t) :
    toTree s = .record [(s.kind.name, t)] := by
  simp only [toTree, holds]

theorem toTree_of_empty {s : State} (empty : s.contents = none) : toTree s = .text s.kind.name := by
  simp only [toTree, empty]

theorem textual (s : State) : Textual 4 (toTree s) := by
  cases holds : s.contents with
  | none => exact toTree_of_empty holds ▸ .text _
  | some t =>
    rw [toTree_of_contents holds]
    exact .record (by simp) (List.forall_mem_singleton.mpr (textual_contents holds))

/-- A state that holds nothing is read from its name. -/
theorem ofTree?_name {s : State} (empty : s.contents = none) :
    ofTree? e (.text s.kind.name) = some s := by
  have variant : Vocabulary.variant? e (.text s.kind.name) = some (s.kind, none) :=
    Vocabulary.variant?_word e s.kind
  simp only [ofTree?, variant, ofKind?_kind empty]

/-- A state under its name is what its contents are read as. -/
theorem ofTree?_entry (kind : StateKind) (contents : Tree) :
    (ofTree? e (.record [(kind.name, contents)]) : Option State) =
      ofContents? e contents kind := by
  have variant : Vocabulary.variant? e (.record [(kind.name, contents)]) =
      some (kind, some contents) := Vocabulary.variant?_record e kind contents
  simp only [ofTree?, variant]

instance : Faithful State where
  ofTree?_toTree e s := by
    cases holds : s.contents with
    | none => rw [toTree_of_empty holds, ofTree?_name holds]
    | some t =>
      have once := (textual_contents holds).nodup_members
      rw [toTree_of_contents holds, contents_eq_record holds, ofTree?_entry,
        ofContents?_record holds (.refl once)]
  toTree_ne_null s := by
    cases holds : s.contents with
    | none => rw [toTree_of_empty holds]; nofun
    | some t => rw [toTree_of_contents holds]; nofun

end State

namespace Session

theorem textual (s : Session) : Textual 5 (toTree s) := by
  refine .record (by simp) ?_
  simp only [List.forall_mem_cons]
  exact ⟨s.envelope.textual.mono (by decide), s.state.textual, nofun⟩

/-- A session is read from trees that its envelope and its state are read from. -/
theorem ofTree?_record {s : Session} {envelope state : Tree}
    (readsEnvelope : ofTree? e envelope = some s.envelope)
    (readsState : ofTree? e state = some s.state) :
    ofTree? e (.record [("envelope", envelope), ("state", state)]) = some s := by
  have first : [("envelope", envelope), ("state", state)].lookup "envelope" = some envelope := rfl
  have second : [("envelope", envelope), ("state", state)].lookup "state" = some state := rfl
  simp only [ofTree?]
  rw [Members.ofTree?_record (by simp) (by simp)]
  simp only [Option.bind_eq_bind, Option.bind_some, Members.required, first, second, readsEnvelope,
    readsState]

instance : Faithful Session where
  ofTree?_toTree e s := ofTree?_record (ofTree?_toTree e s.envelope) (ofTree?_toTree e s.state)
  toTree_ne_null _ := nofun

end Session

end SignInJourney
