import SignInJourney.Audit.Basic
import SignInJourney.Session.Document
import SignInJourney.Text.Uuid

/-!
Audit events as trees, with the ids that are drawn for them on delivery: one for every event, and
one for the error that an error event reports.
-/

namespace SignInJourney

namespace AuditEvent

def detailsTree (details : List (DetailKey × String)) : Tree :=
  .record (details.map fun d => (d.1.name, .text d.2))

/-- An event under its id. -/
def document (id : String) (e : AuditEvent) : Tree :=
  .record
    [("event_id", .text id), ("timestamp", toTree e.timestamp),
      ("originating_service", toTree e.service), ("session_id", toTree e.session),
      ("event_type", toTree e.category), ("details", detailsTree e.details)]

/-- The event with an id for the error that it reports, if it reports one. -/
def withErrorId (id : String) (e : AuditEvent) : AuditEvent :=
  match e.category with
  | .error => { e with details := (.errorId, id) :: e.details }
  | _ => e

/-- The event as it is delivered under these ids. -/
def delivered (eventId errorId : String) (e : AuditEvent) : Tree :=
  (e.withErrorId errorId).document eventId

/-- Details from a map, of those under one key the last. -/
def details? (e : Encoding) : List (Tree × Tree) → Option (List (DetailKey × String))
  | [] => some []
  | (k, v) :: rest =>
    match (ofTree? e k : Option DetailKey), v.text?, details? e rest with
    | some key, some value, some others =>
      some (if (others.lookup key).isSome then others else (key, value) :: others)
    | _, _, _ => none

end AuditEvent

/-- An event as the audit trail holds it. -/
structure DeliveredEvent where
  id : Uuid
  event : AuditEvent
  deriving DecidableEq, Repr

namespace DeliveredEvent

def names : List String :=
  ["event_id", "timestamp", "originating_service", "session_id", "event_type", "details"]

instance : ToTree DeliveredEvent := ⟨fun v => v.event.document v.id.text⟩

/-- Details in a map. -/
structure Details where
  entries : List (DetailKey × String)

instance : OfTree Details where
  ofTree? e
    | .dict entries => (AuditEvent.details? e entries).map .mk
    | _ => none

instance : OfTree DeliveredEvent where
  ofTree? e t := do
    let m ← Members.ofTree? e names .lenient t
    let details : Details ← m.required "details"
    some
      { id := ← m.required "event_id"
        event :=
          { timestamp := ← m.required "timestamp"
            service := ← m.required "originating_service"
            session := ← m.required "session_id"
            category := ← m.required "event_type"
            details := details.entries } }

end DeliveredEvent

end SignInJourney
