import SignInJourney.Data.Dictionary
import SignInJourney.Session.Level

/-!
The directory: the transactions that may ask for sign-ins, the identity providers and countries that
users may pick, and the matching services. A document lists entries; of transactions and of matching
services with one id the last counts, of identity providers with one id the first.
-/

namespace SignInJourney

structure Transaction where
  id : String
  /-- The levels that it is registered for, in order of preference. -/
  levels : List Level
  matchingService : Option String
  usingMatching : Bool
  /-- The attribute to ask an unmatched user for. -/
  cycle3Attribute : Option String
  /-- What to ask of the matching service when it creates an account. -/
  accountAttributes : List String
  eidasEnabled : Bool
  eidasCountries : List String
  deriving DecidableEq, Repr

structure IdentityProvider where
  id : String
  levels : List Level
  exactComparison : Bool
  enabled : Bool
  enabledForRegistration : Bool
  /-- The transactions that it serves; none listed is all. -/
  transactions : List String
  deriving DecidableEq, Repr

namespace IdentityProvider

def serves (p : IdentityProvider) (transaction : String) : Bool :=
  p.transactions.isEmpty || p.transactions.contains transaction

/-- Users of a transaction may pick it for a level. -/
def isEnabled (p : IdentityProvider) (transaction : String) (registering : Bool) (level : Level) :
    Bool :=
  p.enabled && p.serves transaction && (!registering || p.enabledForRegistration) &&
    p.levels.contains level

end IdentityProvider

/-- Where a matching service takes queries. -/
structure MatchingEndpoint where
  id : String
  uri : String
  accountCreationUri : String
  onboarding : Bool
  deriving DecidableEq, Repr

structure Country where
  id : String
  /-- The two-letter code. -/
  code : String
  enabled : Bool
  /-- Taken in place of the address in the country's metadata. -/
  ssoUrl : Option String
  deriving DecidableEq, Repr

structure DirectoryDocument where
  transactions : List Transaction
  providers : List IdentityProvider
  matchingServices : List MatchingEndpoint
  countries : List Country
  deriving DecidableEq, Repr

namespace DirectoryDocument

/-- Nothing registered. -/
def empty : DirectoryDocument :=
  { transactions := [], providers := [], matchingServices := [], countries := [] }

end DirectoryDocument

/-- Something that the directory does not have. -/
inductive DirectoryError where
  | unknownTransaction (id : String)
  | noMatchingService (transaction : String)
  | unknownProvider (id : String)
  | unknownMatchingService (id : String)
  deriving DecidableEq, Repr

namespace DirectoryError

def message : DirectoryError → String
  | .unknownTransaction id => "Unknown transaction " ++ id
  | .noMatchingService transaction => "Transaction " ++ transaction ++ " has no matching service"
  | .unknownProvider id => "Unknown identity provider " ++ id
  | .unknownMatchingService id => "Unknown matching service " ++ id

end DirectoryError

structure Directory where
  transactions : Dictionary Transaction
  providers : List IdentityProvider
  matchingServices : Dictionary MatchingEndpoint
  countries : List Country

namespace Directory

def ofDocument (d : DirectoryDocument) : Directory :=
  { transactions := Dictionary.ofList (d.transactions.map fun t => (t.id, t))
    providers := d.providers
    matchingServices := Dictionary.ofList (d.matchingServices.map fun m => (m.id, m))
    countries := d.countries }

def empty : Directory :=
  ofDocument .empty

def transaction (d : Directory) (id : String) : Except DirectoryError Transaction :=
  match d.transactions.get? id with
  | some t => .ok t
  | none => .error (.unknownTransaction id)

def provider (d : Directory) (id : String) : Except DirectoryError IdentityProvider :=
  match d.providers.find? fun p => p.id == id with
  | some p => .ok p
  | none => .error (.unknownProvider id)

def matchingService (d : Directory) (id : String) : Except DirectoryError MatchingEndpoint :=
  match d.matchingServices.get? id with
  | some m => .ok m
  | none => .error (.unknownMatchingService id)

/-- The matching service that a transaction is registered with. -/
def matchingServiceOf (d : Directory) (transaction : String) : Except DirectoryError String := do
  match (← d.transaction transaction).matchingService with
  | some id => .ok id
  | none => .error (.noMatchingService transaction)

/-- The providers that users of a transaction may pick for a level. -/
def enabledProviders (d : Directory) (transaction : String) (registering : Bool) (level : Level) :
    List String :=
  (d.providers.filter fun p => p.isEnabled transaction registering level).map (·.id)

/-- The provider that goes by an id takes registrations for a transaction and level. -/
def isEnabledForRegistration (d : Directory) (id transaction : String) (level : Level) :
    Except DirectoryError Bool := do
  let p ← d.provider id
  .ok (p.enabled && p.enabledForRegistration && p.serves transaction && p.levels.contains level)

/-- The countries that are enabled and accepted by a transaction. -/
def countriesFor (d : Directory) (transaction : String) : Except DirectoryError (List Country) := do
  let t ← d.transaction transaction
  .ok (d.countries.filter fun c => c.enabled && t.eidasCountries.contains c.id)

/-- The address that replaces the one in a country's metadata. -/
def ssoUrl? (d : Directory) (country : String) : Option String :=
  (d.countries.find? fun c => c.id == country).bind (·.ssoUrl)

end Directory

end SignInJourney
