import SignInJourney.Json.Number
import SignInJourney.Text.Hex

/-!
JSON text read as a tree. The grammar is the standard one, with no comments and no comma after the
last item. What is well written but stands for nothing is read as `Tree.flawed`, so that a reader
who passes over it never notices: a text with half of a surrogate pair, a number beyond the finite
doubles, and anything nested in 127 lists and maps or more.
-/

namespace SignInJourney.Json

/-- How many lists and maps may be open at once. -/
def maxLevel : Nat := 127

def isBlank (c : Char) : Bool :=
  c == ' ' || c == '\n' || c == '\t' || c == '\r'

def skipBlanks (cs : List Char) : List Char :=
  cs.dropWhile isBlank

/-- A piece of a quoted text: a character, or an escaped 16-bit unit. -/
inductive Piece where
  | char (c : Char)
  | unit (n : Nat)
  deriving DecidableEq, Repr

/-- The four digits of an escaped unit. -/
def hex4? (a b c d : Char) : Option Nat := do
  let a ← Hex.value? a
  let b ← Hex.value? b
  let c ← Hex.value? c
  let d ← Hex.value? d
  some (((a * 16 + b) * 16 + c) * 16 + d)

/-- The character that a backslash and another one stand for. -/
def shortEscape? (c : Char) : Option Char :=
  if c = '"' then some '"'
  else if c = '\\' then some '\\'
  else if c = '/' then some '/'
  else if c = 'b' then some '\x08'
  else if c = 'f' then some '\x0c'
  else if c = 'n' then some '\n'
  else if c = 'r' then some '\r'
  else if c = 't' then some '\t'
  else none

/-- The pieces up to the closing quote, and what follows it. -/
def pieces? : List Char → Option (List Piece × List Char)
  | [] => none
  | '"' :: rest => some ([], rest)
  | '\\' :: 'u' :: a :: b :: c :: d :: rest =>
    match hex4? a b c d, pieces? rest with
    | some n, some (ps, rest) => some (.unit n :: ps, rest)
    | _, _ => none
  | '\\' :: c :: rest =>
    match shortEscape? c, pieces? rest with
    | some c, some (ps, rest) => some (.char c :: ps, rest)
    | _, _ => none
  | c :: rest =>
    if c.toNat < 0x20 ∨ c = '\\' then none
    else
      match pieces? rest with
      | some (ps, rest) => some (.char c :: ps, rest)
      | none => none

def isHighSurrogate (n : Nat) : Bool :=
  0xD800 ≤ n && n ≤ 0xDBFF

def isLowSurrogate (n : Nat) : Bool :=
  0xDC00 ≤ n && n ≤ 0xDFFF

/-- The characters that pieces stand for: a high surrogate needs a low one right behind it. -/
def join? : List Piece → Option (List Char)
  | [] => some []
  | .char c :: rest => (join? rest).map (c :: ·)
  | .unit n :: .unit m :: rest =>
    if isHighSurrogate n then
      if isLowSurrogate m then
        (join? rest).map (Char.ofNat ((n - 0xD800) * 0x400 + (m - 0xDC00) + 0x10000) :: ·)
      else none
    else if isLowSurrogate n then none
    else (join? (.unit m :: rest)).map (Char.ofNat n :: ·)
  | .unit n :: rest =>
    if isHighSurrogate n || isLowSurrogate n then none else (join? rest).map (Char.ofNat n :: ·)

/-- A quoted text behind its opening quote. -/
def quoted? (cs : List Char) : Option (Tree × List Char) :=
  (pieces? cs).map fun (ps, rest) =>
    match join? ps with
    | some chars => (.text (String.ofList chars), rest)
    | none => (.flawed, rest)

/-- A list or map where it may stand, and a flaw where it is nested too deep. -/
def nested (level : Nat) (t : Tree) : Tree :=
  if level < maxLevel then t else .flawed

mutual

/-- One value with blanks in front, inside `level` lists and maps. -/
def value? : Nat → Nat → List Char → Option (Tree × List Char)
  | 0, _, _ => none
  | fuel + 1, level, cs =>
    match skipBlanks cs with
    | 'n' :: 'u' :: 'l' :: 'l' :: rest => some (.null, rest)
    | 't' :: 'r' :: 'u' :: 'e' :: rest => some (.bool true, rest)
    | 'f' :: 'a' :: 'l' :: 's' :: 'e' :: rest => some (.bool false, rest)
    | '"' :: rest => quoted? rest
    | '[' :: rest =>
      match skipBlanks rest with
      | ']' :: rest => some (nested level (.list []), rest)
      | rest => (items? fuel (level + 1) rest).map fun (ts, rest) => (nested level (.list ts), rest)
    | '{' :: rest =>
      match skipBlanks rest with
      | '}' :: rest => some (nested level (.dict []), rest)
      | rest =>
        (entries? fuel (level + 1) rest).map fun (es, rest) => (nested level (.dict es), rest)
    | '-' :: rest => number? true rest
    | rest => number? false rest

/-- The items of a list up to its closing bracket: at least one. -/
def items? : Nat → Nat → List Char → Option (List Tree × List Char)
  | 0, _, _ => none
  | fuel + 1, level, cs =>
    match value? fuel level cs with
    | none => none
    | some (t, rest) =>
      match skipBlanks rest with
      | ']' :: rest => some ([t], rest)
      | ',' :: rest => (items? fuel level rest).map fun (ts, rest) => (t :: ts, rest)
      | _ => none

/-- The entries of a map up to its closing brace: at least one. -/
def entries? : Nat → Nat → List Char → Option (List (Tree × Tree) × List Char)
  | 0, _, _ => none
  | fuel + 1, level, cs =>
    match skipBlanks cs with
    | '"' :: rest =>
      match quoted? rest with
      | none => none
      | some (k, rest) =>
        match skipBlanks rest with
        | ':' :: rest =>
          match value? fuel level rest with
          | none => none
          | some (v, rest) =>
            match skipBlanks rest with
            | '}' :: rest => some ([(k, v)], rest)
            | ',' :: rest => (entries? fuel level rest).map fun (es, rest) => ((k, v) :: es, rest)
            | _ => none
        | _ => none
    | _ => none

end

/-- The value that a whole text holds. Every step takes a character, so twice the length is enough
for every value and every list or map around it. -/
def read? (text : String) : Option Tree :=
  let cs := text.toList
  match value? (2 * cs.length + 2) 0 cs with
  | some (t, rest) => if (skipBlanks rest).isEmpty then some t else none
  | none => none

/-- The document that a whole text holds: nothing flawed in it, and of repeated names the last. -/
def document? (text : String) : Option Tree :=
  (read? text).bind Tree.plain?

end SignInJourney.Json
