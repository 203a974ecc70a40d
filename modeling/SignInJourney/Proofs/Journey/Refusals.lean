import SignInJourney.Journey.Answer
import SignInJourney.Journey.Country
import SignInJourney.Journey.Cycle3
import SignInJourney.Journey.Matching
import SignInJourney.Journey.ProviderResponse
import SignInJourney.Journey.ProviderSelection
import SignInJourney.Journey.Start
import SignInJourney.Proofs.Journey.Checks

/-!
Why the steps of handlers fail. Whatever a step of the journey refuses, it refuses for what the
event says or the directory holds (`Failure.ForContent`), and never because of the session's
deadline or the kind of its state: those are settled before. It runs out of the range of instants
only where one of the policy's times does not fit after the instant that it counts from
(`Failure.Explained`).
-/

namespace SignInJourney

/-- A refusal for what an event says or what the directory holds. -/
inductive Refusal.OfContent : Refusal → Prop
  | invalid (cause : Invalidity) : OfContent (.invalid cause)
  | disabled (provider : String) : OfContent (.disabled provider)
  | directory (error : DirectoryError) : OfContent (.directory error)

theorem Refusal.OfContent.inTime {r : Refusal} (h : r.OfContent) : r.kind ≠ "session_timeout" := by
  cases h <;> simp [kind]

theorem Refusal.OfContent.fits {r : Refusal} (h : r.OfContent) : r.kind ≠ "invalid_state" := by
  cases h <;> simp [kind]

/-- The times of the policy fit after the present. -/
structure Environment.HasRoom (env : Environment) : Prop where
  session : (env.now.add? env.policy.sessionLength).isSome = true
  assertions : (env.now.add? env.policy.assertionLifetime).isSome = true
  wait : (env.now.add? env.policy.waitPeriod).isSome = true

namespace Failure

/-- Whatever is refused is refused for its content. -/
def ForContent {α : Type} (x : Except Failure α) : Prop :=
  ∀ r, x = .error (.refused r) → r.OfContent

/-- Whatever is refused is refused for its content, and where there is room nothing is out of range.
-/
structure Explained {α : Type} (room : Prop) (x : Except Failure α) : Prop where
  content : ForContent x
  inRange : room → x ≠ .error .outOfRange

variable {α β : Type} {room : Prop}

theorem Explained.mono {room' : Prop} {x : Except Failure α} (h : Explained room x)
    (enough : room' → room) : Explained room' x :=
  ⟨h.content, fun there => h.inRange (enough there)⟩

theorem explained_ok (a : α) : Explained room (.ok a) := by
  constructor
  · rintro r ⟨⟩
  · rintro _ ⟨⟩

theorem explained_refused {r : Refusal} (h : r.OfContent) :
    Explained room (.error (.refused r) : Except Failure α) := by
  constructor
  · rintro _ ⟨⟩
    exact h
  · rintro _ ⟨⟩

theorem explained_bind {x : Except Failure α} {f : α → Except Failure β} (first : Explained room x)
    (rest : ∀ a, Explained room (f a)) : Explained room (x >>= f) := by
  cases x with
  | ok a => exact rest a
  | error e =>
    constructor
    · rintro r ⟨⟩
      exact first.content r rfl
    · rintro there ⟨⟩
      exact first.inRange there rfl

theorem explained_map {x : Except Failure α} (f : α → β) (h : Explained room x) :
    Explained room (x.map f) := by
  cases x with
  | ok a => exact explained_ok (f a)
  | error e =>
    constructor
    · rintro r ⟨⟩
      exact h.content r rfl
    · rintro there ⟨⟩
      exact h.inRange there rfl

theorem explained_ofDirectory (x : Except DirectoryError α) : Explained room (ofDirectory x) := by
  cases x with
  | ok a => exact explained_ok a
  | error e => exact explained_refused (.directory e)

theorem explained_ofInvalidity (x : Except Invalidity α) : Explained room (ofInvalidity x) := by
  cases x with
  | ok a => exact explained_ok a
  | error cause => exact explained_refused (.invalid cause)

theorem explained_inRange {x : Option α} (fits : room → x.isSome = true) :
    Explained room (inRange x) := by
  cases x with
  | some a => exact explained_ok a
  | none =>
    constructor
    · rintro r ⟨⟩
    · intro there
      cases fits there

end Failure

open Failure

variable {env : Environment}

namespace Environment

theorem explained_query {stage : Stage} {envelope : Envelope} {identity : Identity} :
    Explained env.HasRoom (env.query stage envelope identity) :=
  explained_bind (explained_ofDirectory _) fun _ => explained_inRange fun room =>
    AttributeQuery.isSome_of?_iff.mpr ⟨room.assertions, room.wait⟩

theorem explained_startState {transaction : String} :
    Explained env.HasRoom (env.startState transaction) := by
  refine explained_bind (explained_ofDirectory _) fun t => ?_
  cases t.levels.head? <;> exact explained_ok _

theorem explained_matchingServiceFor {transaction : String} :
    Explained env.HasRoom (env.matchingServiceFor transaction) := by
  refine explained_bind (explained_ofDirectory _) fun t => ?_
  split
  · exact explained_map _ (explained_ofDirectory _)
  · exact explained_ok _

end Environment

namespace Journey

theorem Start.explained_openSession {id : SessionId} {request : AuthnRequest} :
    Explained env.HasRoom (openSession env id request) := by
  refine explained_bind (explained_ofDirectory _) fun t => ?_
  split
  · exact explained_bind (explained_inRange Environment.HasRoom.session) fun _ => explained_ok _
  · exact explained_refused (.invalid _)

theorem ProviderSelection.explained_selection {s : Session} {choice : ProviderChoice} :
    Explained env.HasRoom (selection env s choice) := by
  refine explained_bind (explained_ofDirectory _) fun t => ?_
  split
  · exact explained_refused (.invalid _)
  dsimp only
  split
  · exact explained_refused (.invalid _)
  refine explained_bind (explained_ofDirectory _) fun p => ?_
  refine explained_bind (explained_ofDirectory _) fun takesRegistrations => ?_
  exact explained_bind Environment.explained_matchingServiceFor fun _ => explained_ok _

namespace ProviderResponse

variable {envelope : Envelope} {sel : ProviderSelection} {r : ProviderResponse}

theorem explained_checkIssuer {issuer : String} {level : Level} :
    Explained env.HasRoom (checkIssuer env envelope sel issuer level) := by
  unfold checkIssuer
  split
  · exact explained_ofInvalidity _
  · exact explained_refused (.disabled _)

theorem explained_checkSuccess : Explained env.HasRoom (checkSuccess env envelope sel r) := by
  refine explained_bind explained_checkIssuer fun _ => ?_
  refine explained_bind (explained_ofInvalidity _) fun achieved => ?_
  refine explained_bind (explained_ofDirectory _) fun p => ?_
  split
  · exact explained_refused (.invalid _)
  refine explained_bind (explained_ofInvalidity _) fun persistentId => ?_
  refine explained_bind (explained_ofInvalidity _) fun matchingDataset => ?_
  exact explained_bind (explained_ofInvalidity _) fun _ => explained_ok _

theorem explained_matchingService : Explained env.HasRoom (matchingService env envelope sel) := by
  unfold matchingService
  split
  · exact explained_ok _
  · exact explained_ofDirectory _

theorem explained_afterNoContext : Explained env.HasRoom (afterNoContext env envelope sel) := by
  unfold afterNoContext
  split
  · exact explained_ok _
  · exact Environment.explained_startState

end ProviderResponse

namespace Country

variable {envelope : Envelope} {sel : CountrySelection} {r : CountryResponse}

theorem explained_checkEnabled {transaction country : String} :
    Explained env.HasRoom (checkEnabled env transaction country) := by
  refine explained_bind (explained_ofDirectory _) fun countries => ?_
  split
  · exact explained_ok _
  · exact explained_refused (.invalid _)

theorem explained_checkSuccess : Explained env.HasRoom (checkSuccess envelope sel r) := by
  refine explained_bind (explained_ofInvalidity _) fun persistentId => ?_
  refine explained_bind (explained_ofInvalidity _) fun identity => ?_
  exact explained_bind (explained_ofInvalidity _) fun _ => explained_ok _

theorem explained_matchingService : Explained env.HasRoom (matchingService env envelope sel) := by
  unfold matchingService
  split
  · exact explained_ok _
  · exact explained_ofDirectory _

end Country

namespace Matching

variable {p : Pending} {r : MatchingResponse}

theorem explained_checkResponse : Explained env.HasRoom (checkResponse p r) :=
  explained_ofInvalidity _

theorem explained_outcome : Explained env.HasRoom (outcome p r) := by
  refine explained_bind (explained_ofInvalidity _) fun _ => ?_
  exact explained_bind (explained_ofInvalidity _) fun _ => explained_ok _

end Matching

namespace Cycle3

variable {a : Asked}

theorem explained_attributeName : Explained env.HasRoom (attributeName env a) := by
  refine explained_bind (explained_ofDirectory _) fun t => ?_
  split
  · exact explained_ok _
  · exact explained_refused (.invalid _)

theorem explained_question : Explained env.HasRoom (question env a) :=
  explained_bind explained_attributeName fun _ => explained_ok _

end Cycle3

end Journey

end SignInJourney
