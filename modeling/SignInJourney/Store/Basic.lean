import SignInJourney.Session.Record

/-!
The session store: a record for every session, under the hexadecimal text of its id, and a cache of
sessions that were read or written lately. A sweep removes what has been past its deadline for
longer than a retention period, and what cannot be read.
-/

namespace SignInJourney

open Time

structure Store where
  /-- The stored records, by key. -/
  records : Dictionary (List UInt8)
  /-- Decoded sessions, by key. -/
  cache : Dictionary Session

namespace Store

def empty : Store :=
  { records := .empty, cache := .empty }

instance : Inhabited Store := ⟨empty⟩

/-- Stores a session under its own id. -/
def put (store : Store) (s : Session) : Store :=
  { records := store.records.insert s.id.hex (Record.encode s)
    cache := store.cache.insert s.id.hex s }

/-- The session that the records hold under an id. -/
def recorded (records : Dictionary (List UInt8)) (id : SessionId) :
    Except RecordError (Option Session) :=
  match records.get? id.hex with
  | none => .ok none
  | some bytes => (Record.decode bytes).map some

/-- The session under an id: the cached one, or the recorded one. -/
def get (store : Store) (id : SessionId) : Except RecordError (Option Session) :=
  match store.cache.get? id.hex with
  | some s => .ok (some s)
  | none => recorded store.records id

/-- The store after a look at an id: what was found is in the cache. -/
def touch (store : Store) (id : SessionId) : Store :=
  match store.get id with
  | .ok (some s) => { store with cache := store.cache.insert id.hex s }
  | _ => store

def contains (store : Store) (id : SessionId) : Bool :=
  store.cache.contains id.hex || store.records.contains id.hex

def delete (store : Store) (id : SessionId) : Store :=
  { records := store.records.erase id.hex, cache := store.cache.erase id.hex }

/-- How many records there are. -/
def size (store : Store) : Nat :=
  store.records.size

/-- The sessions that a fresh cache holds: those in records that can be read and are not past their
deadline. -/
def live (records : Dictionary (List UInt8)) (now : Instant) : List Session :=
  records.entries.filterMap fun e =>
    match Record.decode e.2 with
    | .ok s => if s.isExpiredAt now then none else some s
    | .error _ => none

/-- The store over some records, with the live sessions in its cache. -/
def ofRecords (records : Dictionary (List UInt8)) (now : Instant) : Store :=
  { records := records
    cache := Dictionary.ofList ((live records now).map fun s => (s.id.hex, s)) }

/-- The store closed and opened again. -/
def reopen (store : Store) (now : Instant) : Store :=
  ofRecords store.records now

/-- When a session may be removed, if that is an instant. -/
def removable? (retention : Span) (s : Session) : Option Instant :=
  s.envelope.expiry.add? retention

/-- A session has been kept for longer than the retention period. -/
def isStale (now : Instant) (retention : Span) (s : Session) : Bool :=
  (removable? retention s).any fun t => decide (t < now)

/-- A record is to be removed: its session is stale, or it has none. -/
def isRemovable (now : Instant) (retention : Span) (bytes : List UInt8) : Bool :=
  match Record.decode bytes with
  | .ok s => isStale now retention s
  | .error _ => true

/-- The retention period of every session ends at an instant. -/
def retainable (retention : Span) (sessions : List Session) : Bool :=
  sessions.all fun s => (removable? retention s).isSome

/-- The sessions in the records that can be read. -/
def readable (records : Dictionary (List UInt8)) : List Session :=
  records.entries.filterMap fun e => (Record.decode e.2).toOption

/-- What a sweep leaves, and how many records it removed: none if it had to stop, because a
retention period ends at no instant. A sweep that stops over the cache loses the cache; one that
stops over the records has swept the cache. -/
def sweep (store : Store) (now : Instant) (retention : Span) : Option Nat × Store :=
  if retainable retention (store.cache.entries.map (·.2)) then
    let store := { store with cache := store.cache.filter fun _ s => !isStale now retention s }
    if retainable retention (readable store.records) then
      let kept := store.records.filter fun _ bytes => !isRemovable now retention bytes
      (some (store.records.size - kept.size), { store with records := kept })
    else (none, store)
  else (none, { store with cache := .empty })

end Store

end SignInJourney
