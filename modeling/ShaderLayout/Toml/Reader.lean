import ShaderLayout.Toml.Document
import ShaderLayout.Toml.Quoted

/-!
Reading TOML. Each reader takes what it reads off the front of the text and
gives back the rest. Arrays and braces nest to a fixed depth.
-/

namespace ShaderLayout.Toml

def skipBlanks (text : List Char) : List Char :=
  text.dropWhile isBlank

/-- Skips a comment, up to the end of its line. -/
def skipComment : List Char → List Char
  | '#' :: rest => rest.dropWhile isPlain
  | text => text

/-- Skips blanks, comments and line breaks. -/
def skipLines (text : List Char) : List Char :=
  let trimmed := skipComment (skipBlanks text)
  match afterNewline? trimmed with
  | some rest => if rest.length < text.length then skipLines rest else trimmed
  | none => trimmed
termination_by text.length

/-- Skips what may end a line: blanks, a comment, and a line break unless the text ends. -/
def endLine (text : List Char) : Except Fault (List Char) :=
  match skipComment (skipBlanks text) with
  | [] => .ok []
  | trimmed =>
    match afterNewline? trimmed with
    | some rest => .ok rest
    | none => .error .malformed

/-- Skips one given character. -/
def expect (c : Char) : List Char → Except Fault (List Char)
  | [] => .error .malformed
  | d :: rest => if d = c then .ok rest else .error .malformed

def inBareKey (c : Char) : Bool :=
  c.isAlphanum || c == '_' || c == '-'

/-- One part of a key: bare, or a string on one line. -/
def readKeyPart (text : List Char) : Except Fault (String × List Char) :=
  match text with
  | '"' :: rest => readBasic [] rest
  | '\'' :: rest => readLiteral rest
  | _ =>
    match text.span inBareKey with
    | ([], _) => .error .malformed
    | (part, rest) => .ok (String.ofList part, rest)

/-- The parts of a dotted key; blanks may surround each of them. -/
def readKeyParts (text : List Char) : Except Fault (List String × List Char) :=
  match readKeyPart (skipBlanks text) with
  | .error fault => .error fault
  | .ok (part, rest) =>
    match skipBlanks rest with
    | '.' :: after =>
      if after.length < text.length then do
        let (parts, rest) ← readKeyParts after
        return (part :: parts, rest)
      else .error .malformed
    | rest => .ok ([part], rest)
termination_by text.length

/-- A key has at most this many parts, and so many arrays and braces may stand inside each
other. -/
def depthLimit : Nat := 79

/-- A dotted key, cut into the path and the last part. -/
def readKey (text : List Char) : Except Fault ((List String × String) × List Char) := do
  let (parts, rest) ← readKeyParts text
  if parts.length > depthLimit then throw .malformed
  match parts.getLast? with
  | some key => return ((parts.dropLast, key), rest)
  | none => throw .malformed

/-- Items with commas between them and, if there is an item, one more after the last. Around
each item blanks, comments and line breaks are skipped. -/
def readItems (readItem : List Char → Except Fault (Value × List Char)) (text : List Char) :
    Except Fault (List Value × List Char) :=
  match skipLines text with
  | ']' :: rest => .ok ([], rest)
  | start =>
    match readItem start with
    | .error fault => .error fault
    | .ok (item, rest) =>
      match skipLines rest with
      | ']' :: rest => .ok ([item], rest)
      | ',' :: rest =>
        if rest.length < text.length then do
          let (items, rest) ← readItems readItem rest
          return (item :: items, rest)
        else .error .malformed
      | _ => .error .malformed
termination_by text.length

/-- A pair, up to the end of its value. -/
def readPair (readItem : List Char → Except Fault (Value × List Char)) (text : List Char) :
    Except Fault ((List String × String × Value) × List Char) := do
  let ((path, key), rest) ← readKey text
  let rest ← expect '=' rest
  let (value, rest) ← readItem (skipBlanks rest)
  return ((path, key, value), rest)

/-- Pairs on one line with commas between them, up to the closing brace. -/
def readPairs (readItem : List Char → Except Fault (Value × List Char)) (text : List Char) :
    Except Fault (List (List String × String × Value) × List Char) :=
  match readPair readItem text with
  | .error fault => .error fault
  | .ok (pair, rest) =>
    match skipBlanks rest with
    | '\x7d' :: rest => .ok ([pair], rest)
    | ',' :: rest =>
      if rest.length < text.length then do
        let (pairs, rest) ← readPairs readItem rest
        return (pair :: pairs, rest)
      else .error .malformed
    | _ => .error .malformed
termination_by text.length

/-- A value with at most `depth` arrays and braces inside each other. -/
def readValue (depth : Nat) (text : List Char) : Except Fault (Value × List Char) :=
  match text with
  | '"' :: _ | '\'' :: _ => do
    let (content, rest) ← readQuoted text
    return (.string content, rest)
  | '[' :: rest =>
    match depth with
    | 0 => .error .malformed
    | depth + 1 => do
      let (items, rest) ← readItems (readValue depth) rest
      return (.array false items, rest)
  | '\x7b' :: rest =>
    match depth with
    | 0 => .error .malformed
    | depth + 1 =>
      match skipBlanks rest with
      | '\x7d' :: rest => .ok (.table .inline [], rest)
      | start => do
        let (pairs, rest) ← readPairs (readValue depth) start
        return (← Value.ofPairs pairs, rest)
  | _ => readScalar text

/-- One statement, up to the end of its line. -/
def readStatement (text : List Char) : Except Fault (Statement × List Char) := do
  match text with
  | '[' :: '[' :: rest =>
    let ((path, key), rest) ← readKey rest
    let rest ← expect ']' (← expect ']' rest)
    return (.element path key, ← endLine rest)
  | '[' :: rest =>
    let ((path, key), rest) ← readKey rest
    return (.header path key, ← endLine (← expect ']' rest))
  | _ =>
    let ((path, key, value), rest) ← readPair (readValue depthLimit) text
    return (.pair path key value, ← endLine rest)

/-- All statements of a text. -/
def readStatements (text : List Char) : Except Fault (List Statement) :=
  match skipLines text with
  | [] => .ok []
  | start =>
    match readStatement start with
    | .error fault => .error fault
    | .ok (statement, rest) =>
      if rest.length < text.length then do return statement :: (← readStatements rest)
      else .error .malformed
termination_by text.length

/-- The entries of a document; a mark of the byte order at its front is skipped. -/
def read (text : String) : Except Fault Entries := do
  let chars := match text.toList with
    | '\uFEFF' :: rest => rest
    | chars => chars
  Entries.ofStatements (← readStatements chars)

end ShaderLayout.Toml
