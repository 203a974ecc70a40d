import SignInJourney.Journey.Basic

/-! The user picks an identity provider. -/

namespace SignInJourney.Journey.ProviderSelection

open Conduct (moveTo report)

/-- The transaction's levels that a provider can deliver, in the transaction's order. A transaction
registered for level 2 and then 1 is offered level 2 alone by a provider that takes no registrations
for the requested level. -/
def deliverable (takesRegistrations : Bool) (providerLevels transactionLevels : List Level) :
    List Level :=
  let candidates :=
    if !takesRegistrations && transactionLevels == [.two, .one] then [.two] else transactionLevels
  candidates.filter providerLevels.contains

/-- The selection that a choice makes for a transaction. -/
def selection (env : Environment) (s : Session) (choice : ProviderChoice) :
    Except Failure ProviderSelection := do
  let transaction := s.envelope.issuer
  let t ← Failure.ofDirectory (env.directory.transaction transaction)
  if choice.requested ∉ t.levels then
    throw (.refused (.invalid (.unregisteredLevel transaction t.levels choice.requested)))
  let available := env.directory.enabledProviders transaction choice.registering choice.requested
  if choice.provider ∉ available then
    throw (.refused (.invalid (.unavailableProvider s.id choice.provider)))
  let p ← Failure.ofDirectory (env.directory.provider choice.provider)
  let takesRegistrations ← Failure.ofDirectory
    (env.directory.isEnabledForRegistration choice.provider transaction choice.requested)
  let matchingService ← env.matchingServiceFor transaction
  .ok
    { provider := choice.provider
      matchingService := matchingService
      levels := requestedFirst (deliverable takesRegistrations p.levels t.levels) choice.requested
      exactComparison := p.exactComparison
      registering := choice.registering
      requested := choice.requested
      available := available }

def select (env : Environment) (s : Session) (choice : ProviderChoice) : Conduct Unit := do
  let selected ← selection env s choice
  moveTo s.envelope (.providerSelected selected)
  report (.occurrence s.envelope
    (.providerSelected choice.provider selected.levels choice.ip))

end SignInJourney.Journey.ProviderSelection
