import SignInJourney.Proofs.Service.Run

/-!
Operations that fail. Unless a session is found past its deadline, nothing in the store changes,
nothing is reported and no query is sent: a handler that fails does so before it does anything
(`Conduct.Orderly.untouched`), and so there is nothing to take back.
-/

namespace SignInJourney

namespace Service

/-- An operation that is refused for anything but a passed deadline, or that runs out of the range
of instants, leaves no trace, whatever the store holds. -/
theorem no_trace_of_failure {env : Environment} {store : Store} {op : Operation} {f : Failure}
    (fails : (perform env store op).result = .error f)
    (inTime : ∀ r, f = .refused r → r.kind ≠ "session_timeout") :
    NoTrace store (perform env store op) := by
  have effect := effect_of_perform env store op
  generalize perform env store op = reply at effect fails ⊢
  cases effect with
  | opened => cases fails
  | existence => cases fails
  | level => cases fails
  | failed _ noTrace => exact noTrace
  | expired =>
    cases fails
    exact absurd rfl (inTime _ rfl)
  | decided => cases fails

end Service

/-! The sample's user is authenticated, but the query about him cannot be made. -/

namespace Sample

/-- The directory has lost the matching service that the user's selection is bound to. -/
def unlisted : Environment :=
  { env with
    directory :=
      .ofDocument
        { transactions := [transaction]
          providers := [provider]
          matchingServices := []
          countries := [] } }

/-- Assertions are to last for longer than there are instants. -/
def unending : Environment :=
  { env with
    policy := { env.policy with assertionLifetime := ⟨9223372036854775, by decide, by decide⟩ } }

end Sample

namespace Service

/-- A success that has passed every check of the answer fails with the lookup of its matching
service, or with the instants of its query, and neither has left a trace. -/
theorem no_trace_of_failed_query :
    ((perform Sample.unlisted Sample.choosing.reply.store Sample.authenticating.operation).result =
        .error (.refused (.directory (.unknownMatchingService Sample.matchingService.id))) ∧
      NoTrace Sample.choosing.reply.store
        (perform Sample.unlisted Sample.choosing.reply.store Sample.authenticating.operation)) ∧
    (perform Sample.unending Sample.choosing.reply.store Sample.authenticating.operation).result =
        .error .outOfRange ∧
      NoTrace Sample.choosing.reply.store
        (perform Sample.unending Sample.choosing.reply.store Sample.authenticating.operation) := by
  refine ⟨⟨rfl, no_trace_of_failure rfl ?_⟩, rfl, no_trace_of_failure rfl ?_⟩
  · rintro _ ⟨⟩
    decide
  · rintro _ ⟨⟩

end Service

end SignInJourney
