import ShaderLayout.Schema.Decode
import ShaderLayout.Schema.Validate

/-!
The schema that host bindings carry along. Bindings define the text of their
schema as a constant, from which a host reads its contract when it is loaded.
The constant is a string literal: it goes up to the first quote that no escape
takes in, and a backslash starts an escape, which is a letter, a code in
hexadecimal digits, or the end of a line with the margin of the next one.
-/

namespace ShaderLayout

namespace Bindings

/-! ### String literals -/

/-- The character of an escape by a single letter. -/
def letterEscape? : Char → Option Char
  | '0' => some '\x00'
  | 'n' => some '\n'
  | 'r' => some '\r'
  | 't' => some '\t'
  | '\\' => some '\\'
  | '\'' => some '\''
  | '"' => some '"'
  | _ => none

/-- Reads a code point from behind its opening brace: one to six hexadecimal digits, behind each of
which there may be underscores. -/
def readCodePoint (text : List Char) : Option (Char × List Char) :=
  let written := text.takeWhile (· != '\x7d')
  let digits := written.filter (· != '_')
  match text.dropWhile (· != '\x7d') with
  | [] => none
  | _ :: rest =>
    if written.head?.any (· != '_') ∧ digits.length ≤ 6 then
      (Toml.scalarOfHex? digits).map (·, rest)
    else none

/-- Blanks that a line may start with behind a line that an escape ends. -/
def isMargin (c : Char) : Bool :=
  c == ' ' || c == '\t' || c == '\n' || c == '\r'

/-- The characters of an escape, of which there may be none, and the rest behind it. -/
def readEscape : List Char → Option (List Char × List Char)
  | '\n' :: rest => some ([], rest.dropWhile isMargin)
  | '\r' :: '\n' :: rest => some ([], rest.dropWhile isMargin)
  | 'x' :: high :: low :: rest => do
    let c ← Toml.scalarOfHex? [high, low]
    if c.toNat < 0x80 then return ([c], rest) else none
  | 'u' :: '\x7b' :: rest => do
    let (c, rest) ← readCodePoint rest
    return ([c], rest)
  | c :: rest => (letterEscape? c).map fun c => ([c], rest)
  | [] => none

/-- The text of a literal from behind its opening quote, and the rest behind its closing one. A line
break of two characters counts as one; alone, the first of them is not allowed. -/
def readQuoted (text : List Char) : Option (List Char × List Char) :=
  match text with
  | [] => none
  | c :: rest =>
    if c = '"' then some ([], rest)
    else if c = '\\' then
      match readEscape rest with
      | none => none
      | some (chars, after) =>
        if after.length < rest.length then
          (readQuoted after).map fun (read, behind) => (chars ++ read, behind)
        else none
    else if c = '\r' then
      if rest.head? = some '\n' then readQuoted rest else none
    else (readQuoted rest).map fun (read, behind) => (c :: read, behind)
termination_by text.length

def readLiteral : List Char → Option (List Char × List Char)
  | '"' :: rest => readQuoted rest
  | _ => none

/-! ### The constant -/

/-- The first line that starts like that, from behind its start on; the line at the top does not
count. -/
def behindStart? (start : List Char) : List Char → Option (List Char)
  | [] => none
  | c :: rest =>
    if c = '\n' ∧ start.isPrefixOf rest then some (rest.drop start.length)
    else behindStart? start rest

/-- The definition of the text of the schema, up to its literal. -/
def schemaStart : String :=
  "pub const SCHEMA_SOURCE: &str = "

/-- The text of the schema that the text of bindings defines. -/
def carriedText? (bindings : String) : Option String := do
  let definition ← behindStart? schemaStart.toList bindings.toList
  let (text, rest) ← readLiteral definition
  if rest.head? = some ';' then return String.ofList text else none

end Bindings

/-- The contract of the schema that a text writes down. -/
def Contract.ofText (text : String) : Except LayoutError Contract := do
  (← Schema.ofText text).validate

/-- The contract of the schema that bindings carry along, if they carry one. -/
def Contract.ofBindings? (bindings : String) : Option (Except LayoutError Contract) :=
  (Bindings.carriedText? bindings).map Contract.ofText

end ShaderLayout
