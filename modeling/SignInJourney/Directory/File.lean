import SignInJourney.Directory.Document
import SignInJourney.Json.Reader

/-! A directory from the content of a file, which holds a directory document in JSON. -/

namespace SignInJourney

/-- Why a file gives no directory. -/
inductive DirectoryFileError where
  | unreadable (path : String)
  | malformed (path : String)
  deriving DecidableEq, Repr

namespace DirectoryFileError

def message : DirectoryFileError → String
  | .unreadable path => "Failed to read directory file " ++ path
  | .malformed path => "Failed to parse directory file " ++ path

end DirectoryFileError

namespace Directory

/-- The directory in a file; there is no content where the file could not be read. -/
def ofFile (path : String) (content : Option String) : Except DirectoryFileError Directory :=
  match content with
  | none => .error (.unreadable path)
  | some text =>
    match (Json.read? text).bind (ofTree? .json) with
    | some document => .ok (ofDocument document)
    | none => .error (.malformed path)

end Directory

end SignInJourney
