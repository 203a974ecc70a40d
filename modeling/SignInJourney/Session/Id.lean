import SignInJourney.Data.Document
import SignInJourney.Text.Hex

/-! Session ids: sixteen bytes, written as thirty-two hexadecimal digits. -/

namespace SignInJourney

structure SessionId where
  bytes : List UInt8
  length_eq : bytes.length = 16
  deriving DecidableEq, Repr

namespace SessionId

/-- The key of the session in the store, and its form in every text. -/
def hex (id : SessionId) : String :=
  Hex.encode id.bytes

/-- The id that a text names: thirty-two digits in either case. -/
def ofHex? (text : String) : Option SessionId :=
  match Hex.decode? text with
  | some bytes => if h : bytes.length = 16 then some ⟨bytes, h⟩ else none
  | none => none

/-- The message for a text that names no session. -/
def refusal (text : String) : String :=
  "Invalid session id: " ++ text

instance : ToString SessionId := ⟨hex⟩

instance : ToTree SessionId := ⟨fun id => .text id.hex⟩

instance : OfTree SessionId := ⟨fun _ t => t.text?.bind ofHex?⟩

end SessionId

end SignInJourney
