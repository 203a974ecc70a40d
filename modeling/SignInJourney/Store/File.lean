import SignInJourney.MessagePack.Reader
import SignInJourney.MessagePack.Writer
import SignInJourney.Data.Dictionary

/-! The records of a store as the content of a file: a MessagePack map from keys to binary data. -/

namespace SignInJourney.StoreFile

def tree (records : Dictionary (List UInt8)) : Tree :=
  .dict (records.entries.map fun e => (.text e.1, .bytes e.2))

def content (records : Dictionary (List UInt8)) : List UInt8 :=
  MessagePack.write (tree records)

/-- The key and the record in an entry. -/
def keyed? : Tree × Tree → Option (String × List UInt8)
  | (.text key, .bytes record) => some (key, record)
  | _ => none

/-- The records in a file; an empty file has none. -/
def records? (content : List UInt8) : Option (Dictionary (List UInt8)) :=
  if content.isEmpty then some .empty
  else
    match MessagePack.read? content with
    | some (.dict entries) => (entries.mapM keyed?).map Dictionary.ofList
    | _ => none

end SignInJourney.StoreFile
