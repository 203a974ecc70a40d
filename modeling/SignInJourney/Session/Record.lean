import SignInJourney.MessagePack.Reader
import SignInJourney.MessagePack.Writer
import SignInJourney.Session.Document
import SignInJourney.Session.Legacy

/-!
Stored records: a session in MessagePack under the version of its layout. A record without a version
is of the first layout.
-/

namespace SignInJourney

/-- Why bytes are no record of a session. -/
inductive RecordError where
  | header
  | version (found : UInt32)
  | session
  | legacyRecord
  | legacySession (flaw : Legacy.Flaw)
  | upgradedSession
  deriving DecidableEq, Repr

namespace RecordError

def message : RecordError → String
  | .header => "Failed to read session record header"
  | .version found => s!"Unsupported session record version {found}"
  | .session => "Failed to deserialize session state"
  | .legacyRecord => "Failed to read legacy session record"
  | .legacySession .noState => "Legacy record has no state variant"
  | .legacySession .noLevels => "Legacy IdpSelected record has no levels of assurance"
  | .upgradedSession => "Failed to deserialize upgraded session state"

end RecordError

namespace Record

/-- The version of the layout that is written. -/
def currentVersion : UInt32 := 2

def tree (s : Session) : Tree :=
  .record [("version", .nat currentVersion.toNat), ("state", toTree s)]

def encode (s : Session) : List UInt8 :=
  MessagePack.write (tree s)

def version? (t : Tree) : Option UInt32 := do
  let m ← Members.ofTree? .messagePack ["version"] .lenient t
  m.withDefault "version" 1

/-- The session in a record of the current layout. -/
def current? (t : Tree) : Option Session := do
  let m ← Members.ofTree? .messagePack ["state"] .lenient t
  m.required "state"

/-- The session tree in a record of the first layout: what a JSON document can hold of it. -/
def legacy? (t : Tree) : Option Tree := do
  let m ← Members.ofTree? .messagePack ["state"] .lenient t
  (m.given.lookup "state").bind Tree.plain?

/-- The session in a record of the first layout. -/
def decodeLegacy (t : Tree) : Except RecordError Session :=
  match legacy? t with
  | none => .error .legacyRecord
  | some session =>
    match Legacy.upgrade session with
    | .error flaw => .error (.legacySession flaw)
    | .ok upgraded =>
      match ofTree? .json upgraded with
      | some s => .ok s
      | none => .error .upgradedSession

/-- The session that a record's tree holds. -/
def ofTree (t : Tree) : Except RecordError Session :=
  match version? t with
  | none => .error .header
  | some version =>
    if version = currentVersion then
      match current? t with
      | some s => .ok s
      | none => .error .session
    else if version = 1 then decodeLegacy t
    else .error (.version version)

/-- The session that bytes record; bytes after the record are passed over. -/
def decode (bytes : List UInt8) : Except RecordError Session :=
  match MessagePack.read? bytes with
  | some t => ofTree t
  | none => .error .header

end Record

end SignInJourney
