import SignInJourney.Proofs.Session.Document
import SignInJourney.Session.Record

/-!
Stored records read back. A record is a session's tree under a version; reading its bytes is reading
its tree (`decode_write`), and of a current record that is its session (`ofTree_current`).
-/

namespace SignInJourney.Record

open Time SignInJourney.Tree

/-- The tree of a record, as it is read back: a small version takes one byte. -/
def stored (version : Option Nat) (session : Tree) : Tree :=
  .record ((version.toList.map fun n => ("version", .uint n 8)) ++ [("state", session)])

variable {version : Option Nat} {session : Tree}

theorem reads_stored (small : ∀ n ∈ version, n < 0x80) (textual : Textual 5 session)
    (fits : MessagePack.fits session) :
    MessagePack.Reads MessagePack.maxLevels (stored version session) := by
  have text (name : String) (short : name.utf8ByteSize < UInt32.size) :
      MessagePack.Reads 1022 (.text name) := MessagePack.reads_text short
  have state : MessagePack.Reads 1022 session := (textual.mono (by decide)).reads fits
  cases version with
  | none =>
    refine MessagePack.reads_dict (show 1 < UInt32.size by decide) fun e entry => ?_
    cases List.mem_singleton.mp entry
    exact ⟨text "state" (by decide), state⟩
  | some n =>
    refine MessagePack.reads_dict (show 2 < UInt32.size by decide) ?_
    refine List.forall_mem_cons.mpr ⟨?_, List.forall_mem_singleton.mpr ?_⟩
    · exact ⟨text "version" (by decide), MessagePack.reads_small (small n rfl)⟩
    · exact ⟨text "state" (by decide), state⟩

/-- A record's bytes hold its tree. What follows them is of no concern. -/
theorem decode_write (small : ∀ n ∈ version, n < 0x80) (textual : Textual 5 session)
    (fits : MessagePack.fits session) (rest : List UInt8) :
    decode (MessagePack.write (stored version session) ++ rest) =
      ofTree (stored version session) := by
  rw [decode, (reads_stored small textual fits).read?_append]

theorem version?_stored (small : ∀ n ∈ version, n < 0x80) :
    version? (stored version session) = some (UInt32.ofNat (version.getD 1)) := by
  cases version with
  | none => rfl
  | some n =>
    have representable : n < UInt32.size := Nat.lt_trans (small n rfl) (by decide)
    have number : (ofTree? .messagePack (.uint n 8) : Option UInt32) = some (UInt32.ofNat n) :=
      if_pos representable
    exact number

theorem state_stored :
    Members.ofTree? .messagePack ["state"] .lenient (stored version session) =
      some { encoding := .messagePack, positional := false, given := [("state", session)] } := by
  cases version <;> rfl

/-- A record of the current layout holds the session that its tree is read as. -/
theorem ofTree_current {s : Session} (read : ofTree? .messagePack session = some s) :
    ofTree (stored (some 2) session) = .ok s := by
  have version : version? (stored (some 2) session) = some currentVersion :=
    version?_stored (by simp)
  have found : current? (stored (some 2) session) = some s := by
    rw [current?, state_stored]
    exact read
  simp only [ofTree, version, if_true, found]

/-- A stored session is read back, whatever bytes follow it. -/
theorem decode_encode_append {s : Session} (fits : MessagePack.fits (toTree s))
    (rest : List UInt8) : decode (encode s ++ rest) = .ok s := by
  have written : encode s = MessagePack.write (stored (some 2) (toTree s)) := rfl
  rw [written, decode_write (by simp) s.textual fits]
  exact ofTree_current (ofTree?_toTree .messagePack s)

/-- Records round-trip: in whatever state, with whatever texts and instants, and with optional parts
or without, a session is what its record decodes to. A record is MessagePack, which has a form for
texts, lists and maps of any length that 32 bits hold. -/
theorem decode_encode (s : Session) (fits : MessagePack.fits (toTree s)) :
    decode (encode s) = .ok s := by
  have alone := decode_encode_append fits []
  rwa [List.append_nil] at alone

/-- In the leap second at the end of the last year that there is, with cycle-3 data of an empty name
and without a relay state. -/
def lastSession : Session where
  envelope :=
    { requestId := "_request"
      issuer := "https://transaction.test"
      expiry :=
        { seconds := lastSecond
          nanos := 1500000000
          first_le := by decide
          le_last := Int.le_refl lastSecond
          nanos_lt := by decide
          leap := by decide }
      consumerUri := "https://transaction.test/answer"
      sessionId := ⟨List.replicate 16 0xFF, List.length_replicate⟩
      supportsEidas := true
      relayState := none
      forceAuthentication := some false }
  state := .matchRequested .eidas .cycle3
    { identity :=
        { provider := "https://country.test"
          level := .two
          matchingService := "https://matching.test"
          registering := false
          assertions := .eidas "identity" "ünïcode" }
      sentAt :=
        { seconds := firstSecond
          nanos := 1
          first_le := Int.le_refl firstSecond
          le_last := by decide
          nanos_lt := by decide
          leap := by decide }
      cycle3Dataset := some (.single "" "value") }

theorem decode_encode_lastSession :
    MessagePack.fits (toTree lastSession) ∧ decode (encode lastSession) = .ok lastSession := by
  have fits : MessagePack.fits (toTree lastSession) := by decide +kernel
  exact ⟨fits, decode_encode lastSession fits⟩

end SignInJourney.Record
