import SignInJourney.Data.Members
import SignInJourney.Directory.Basic

/-!
Directory documents as trees. The document and its entries for transactions and identity providers
are closed records: a member that they do not have is an error. An entry is enabled, and a
transaction uses matching, unless it says otherwise.
-/

namespace SignInJourney

namespace Transaction

def names : List String :=
  ["entity_id", "levels_of_assurance", "matching_service_entity_id", "using_matching",
    "cycle3_attribute_name", "user_account_creation_attributes", "eidas_enabled",
    "eidas_countries"]

instance : ToTree Transaction where
  toTree v := .record
    [("entity_id", toTree v.id), ("levels_of_assurance", toTree v.levels),
      ("matching_service_entity_id", toTree v.matchingService),
      ("using_matching", toTree v.usingMatching),
      ("cycle3_attribute_name", toTree v.cycle3Attribute),
      ("user_account_creation_attributes", toTree v.accountAttributes),
      ("eidas_enabled", toTree v.eidasEnabled), ("eidas_countries", toTree v.eidasCountries)]

instance : OfTree Transaction where
  ofTree? e t := do
    let m ← Members.ofTree? e names .closed t
    some
      { id := ← m.required "entity_id"
        levels := ← m.required "levels_of_assurance"
        matchingService := ← m.withDefault "matching_service_entity_id" none
        usingMatching := ← m.withDefault "using_matching" true
        cycle3Attribute := ← m.withDefault "cycle3_attribute_name" none
        accountAttributes := ← m.withDefault "user_account_creation_attributes" []
        eidasEnabled := ← m.withDefault "eidas_enabled" false
        eidasCountries := ← m.withDefault "eidas_countries" [] }

end Transaction

namespace IdentityProvider

def names : List String :=
  ["entity_id", "supported_levels_of_assurance", "use_exact_comparison_type", "enabled",
    "enabled_for_registration", "transactions"]

instance : ToTree IdentityProvider where
  toTree v := .record
    [("entity_id", toTree v.id), ("supported_levels_of_assurance", toTree v.levels),
      ("use_exact_comparison_type", toTree v.exactComparison), ("enabled", toTree v.enabled),
      ("enabled_for_registration", toTree v.enabledForRegistration),
      ("transactions", toTree v.transactions)]

instance : OfTree IdentityProvider where
  ofTree? e t := do
    let m ← Members.ofTree? e names .closed t
    some
      { id := ← m.required "entity_id"
        levels := ← m.required "supported_levels_of_assurance"
        exactComparison := ← m.withDefault "use_exact_comparison_type" false
        enabled := ← m.withDefault "enabled" true
        enabledForRegistration := ← m.withDefault "enabled_for_registration" true
        transactions := ← m.withDefault "transactions" [] }

end IdentityProvider

namespace MatchingEndpoint

def names : List String :=
  ["entity_id", "uri", "user_account_creation_uri", "onboarding"]

instance : ToTree MatchingEndpoint where
  toTree v := .record
    [("entity_id", toTree v.id), ("uri", toTree v.uri),
      ("user_account_creation_uri", toTree v.accountCreationUri),
      ("onboarding", toTree v.onboarding)]

instance : OfTree MatchingEndpoint where
  ofTree? e t := do
    let m ← Members.ofTree? e names .lenient t
    some
      { id := ← m.required "entity_id"
        uri := ← m.required "uri"
        accountCreationUri := ← m.required "user_account_creation_uri"
        onboarding := ← m.withDefault "onboarding" false }

end MatchingEndpoint

namespace Country

def names : List String :=
  ["entity_id", "simple_id", "enabled", "overridden_sso_url"]

instance : ToTree Country where
  toTree v := .record
    [("entity_id", toTree v.id), ("simple_id", toTree v.code), ("enabled", toTree v.enabled),
      ("overridden_sso_url", toTree v.ssoUrl)]

instance : OfTree Country where
  ofTree? e t := do
    let m ← Members.ofTree? e names .lenient t
    some
      { id := ← m.required "entity_id"
        code := ← m.required "simple_id"
        enabled := ← m.withDefault "enabled" true
        ssoUrl := ← m.withDefault "overridden_sso_url" none }

end Country

namespace DirectoryDocument

def names : List String :=
  ["transactions", "identity_providers", "matching_services", "eidas_countries"]

instance : ToTree DirectoryDocument where
  toTree v := .record
    [("transactions", toTree v.transactions), ("identity_providers", toTree v.providers),
      ("matching_services", toTree v.matchingServices), ("eidas_countries", toTree v.countries)]

instance : OfTree DirectoryDocument where
  ofTree? e t := do
    let m ← Members.ofTree? e names .closed t
    some
      { transactions := ← m.withDefault "transactions" []
        providers := ← m.withDefault "identity_providers" []
        matchingServices := ← m.withDefault "matching_services" []
        countries := ← m.withDefault "eidas_countries" [] }

end DirectoryDocument

/-- How a transaction wants unmatched users handled, as an answer of the directory. -/
structure MatchingProcess where
  attributeName : Option String
  deriving DecidableEq, Repr

namespace MatchingProcess

instance : ToTree MatchingProcess where
  toTree v := .record [("attribute_name", toTree v.attributeName)]

instance : OfTree MatchingProcess where
  ofTree? e t := do
    let m ← Members.ofTree? e ["attribute_name"] .lenient t
    some { attributeName := ← m.withDefault "attribute_name" none }

end MatchingProcess

/-- What an identity provider can do, as an answer of the directory. -/
structure ProviderProfile where
  levels : List Level
  exactComparison : Bool
  deriving DecidableEq, Repr

namespace ProviderProfile

def names : List String :=
  ["supported_levels_of_assurance", "use_exact_comparison_type"]

instance : ToTree ProviderProfile where
  toTree v := .record
    [("supported_levels_of_assurance", toTree v.levels),
      ("use_exact_comparison_type", toTree v.exactComparison)]

instance : OfTree ProviderProfile where
  ofTree? e t := do
    let m ← Members.ofTree? e names .lenient t
    some
      { levels := ← m.required "supported_levels_of_assurance"
        exactComparison := ← m.withDefault "use_exact_comparison_type" false }

end ProviderProfile

end SignInJourney
