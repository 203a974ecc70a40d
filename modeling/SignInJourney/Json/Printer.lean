import SignInJourney.Data.Tree
import SignInJourney.Text.Hex

/-!
Trees written as JSON text, on one line or indented by two spaces a level. Quotes, backslashes and
control characters are escaped, all else stands for itself. What JSON cannot hold is written as
null.
-/

namespace SignInJourney.Json

/-- A character inside a quoted text. -/
def escape (c : Char) : List Char :=
  if c = '"' then ['\\', '"']
  else if c = '\\' then ['\\', '\\']
  else if c = '\n' then ['\\', 'n']
  else if c = '\r' then ['\\', 'r']
  else if c = '\t' then ['\\', 't']
  else if c = '\x08' then ['\\', 'b']
  else if c = '\x0c' then ['\\', 'f']
  else if c.toNat < 0x20 then
    ['\\', 'u', '0', '0', Hex.digit (c.toNat / 16), Hex.digit (c.toNat % 16)]
  else [c]

def quote (s : String) : String :=
  String.ofList ('"' :: s.toList.flatMap escape ++ ['"'])

/-- A value that holds no other. -/
def leaf : Tree → String
  | .bool b => if b then "true" else "false"
  | .uint n _ => toString n
  | .sint n => toString n
  | .text s => quote s
  | _ => "null"

def keyText : Tree → String
  | .text s => quote s
  | t => quote (leaf t)

mutual

/-- A value on one line. -/
def print : Tree → String
  | .list items => "[" ++ printItems items ++ "]"
  | .dict entries => "\x7b" ++ printEntries entries ++ "\x7d"
  | t => leaf t

def printItems : List Tree → String
  | [] => ""
  | [t] => print t
  | t :: rest => print t ++ "," ++ printItems rest

def printEntries : List (Tree × Tree) → String
  | [] => ""
  | [(k, v)] => keyText k ++ ":" ++ print v
  | (k, v) :: rest => keyText k ++ ":" ++ print v ++ "," ++ printEntries rest

end

/-- The start of a line at a level. -/
def indentation (level : Nat) : String :=
  String.ofList ('\n' :: List.replicate (2 * level) ' ')

mutual

/-- A value over several lines, its first line begun at a level. -/
def indent (level : Nat) : Tree → String
  | .list [] => "[]"
  | .list items => "[" ++ indentItems (level + 1) items ++ indentation level ++ "]"
  | .dict [] => "\x7b\x7d"
  | .dict entries => "\x7b" ++ indentEntries (level + 1) entries ++ indentation level ++ "\x7d"
  | t => leaf t

def indentItems (level : Nat) : List Tree → String
  | [] => ""
  | [t] => indentation level ++ indent level t
  | t :: rest => indentation level ++ indent level t ++ "," ++ indentItems level rest

def indentEntries (level : Nat) : List (Tree × Tree) → String
  | [] => ""
  | [(k, v)] => indentation level ++ keyText k ++ ": " ++ indent level v
  | (k, v) :: rest =>
    indentation level ++ keyText k ++ ": " ++ indent level v ++ "," ++ indentEntries level rest

end

end SignInJourney.Json
