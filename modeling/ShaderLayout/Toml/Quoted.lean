import ShaderLayout.Toml.Scalar

/-!
Quoted strings: basic and literal ones, on one line or on several. In a string
on several lines a line break right after the opening quotes is dropped, a line
break of two characters counts as one, and the string may end with up to two
quotes of its own before the three that close it.
-/

namespace ShaderLayout.Toml

open Text

/-- The characters that text may hold as they are; line breaks come on top. -/
def isPlain (c : Char) : Bool :=
  c == '\t' || (0x20 ≤ c.toNat && c.toNat ≠ 0x7f)

def isBlank (c : Char) : Bool :=
  c == ' ' || c == '\t'

/-- The rest behind a line break, if there is one. -/
def afterNewline? : List Char → Option (List Char)
  | '\n' :: rest => some rest
  | '\r' :: '\n' :: rest => some rest
  | _ => none

/-- The character whose code point `digits` write, unless there is no such character. -/
def scalarOfHex? (digits : List Char) : Option Char :=
  let value := ofDigits 16 digits
  if digits.all isHexDigit ∧ value.isValidChar then some (Char.ofNat value) else none

/-- The character of an escape and the rest behind it. -/
def readEscape : List Char → Except Fault (Char × List Char)
  | 'b' :: rest => .ok ('\x08', rest)
  | 'f' :: rest => .ok ('\x0c', rest)
  | 'n' :: rest => .ok ('\n', rest)
  | 'r' :: rest => .ok ('\r', rest)
  | 't' :: rest => .ok ('\t', rest)
  | '"' :: rest => .ok ('"', rest)
  | '\\' :: rest => .ok ('\\', rest)
  | 'u' :: a :: b :: c :: d :: rest => do
    match scalarOfHex? [a, b, c, d] with
    | some char => return (char, rest)
    | none => throw .malformed
  | 'U' :: a :: b :: c :: d :: e :: f :: g :: h :: rest => do
    match scalarOfHex? [a, b, c, d, e, f, g, h] with
    | some char => return (char, rest)
    | none => throw .malformed
  | _ => .error .malformed

/-- The text of a basic string on one line, from behind its opening quote. -/
def readBasic (read text : List Char) : Except Fault (String × List Char) :=
  match text with
  | [] => .error .malformed
  | '"' :: rest => .ok (String.ofList read.reverse, rest)
  | '\\' :: rest =>
    match readEscape rest with
    | .error fault => .error fault
    | .ok (c, after) =>
      if after.length < rest.length then readBasic (c :: read) after else .error .malformed
  | c :: rest => if isPlain c then readBasic (c :: read) rest else .error .malformed
termination_by text.length

/-- The text of a literal string on one line, from behind its opening quote. -/
def readLiteral (text : List Char) : Except Fault (String × List Char) :=
  match text.span fun c => c != '\'' && isPlain c with
  | (content, '\'' :: rest) => .ok (String.ofList content, rest)
  | _ => .error .malformed

/-- What a run of quotes is in a string on several lines: up to two are text, three to five
close the string and those above three are text. -/
def closing? (quote : Char) (text : List Char) : Except Fault (Nat × Option (List Char)) :=
  let (quotes, rest) := text.span (· == quote)
  if quotes.length < 3 then .ok (quotes.length, none)
  else if quotes.length ≤ 5 then .ok (quotes.length - 3, some rest)
  else .error .malformed

/-- The rest behind a backslash at the end of a line: all blanks and line breaks are skipped. -/
def afterLineEnd? (text : List Char) : Option (List Char) :=
  (afterNewline? (text.dropWhile isBlank)).map skipLines
where
  skipLines (text : List Char) : List Char :=
    match text with
    | [] => []
    | c :: rest =>
      if isBlank c || c == '\n' then skipLines rest
      else if c == '\r' && rest.head? == some '\n' then skipLines rest
      else c :: rest

/-- The text of a string on several lines, from behind its opening quotes. -/
def readLines (quote : Char) (hasEscapes : Bool) (read text : List Char) :
    Except Fault (String × List Char) :=
  match text with
  | [] => .error .malformed
  | c :: rest =>
    if c = quote then
      match closing? quote text with
      | .error fault => .error fault
      | .ok (count, some after) => .ok (String.ofList (List.replicate count quote ++ read).reverse, after)
      | .ok (count, none) =>
        if count = 0 then .error .malformed
        else readLines quote hasEscapes (List.replicate count quote ++ read) (rest.drop (count - 1))
    else if c = '\\' ∧ hasEscapes then
      match afterLineEnd? rest with
      | some after =>
        if after.length < rest.length then readLines quote hasEscapes read after
        else .error .malformed
      | none =>
        match readEscape rest with
        | .error fault => .error fault
        | .ok (char, after) =>
          if after.length < rest.length then readLines quote hasEscapes (char :: read) after
          else .error .malformed
    else if c = '\n' ∨ isPlain c then readLines quote hasEscapes (c :: read) rest
    else if c = '\r' ∧ rest.head? = some '\n' then readLines quote hasEscapes read rest
    else .error .malformed
termination_by text.length

/-- A quoted string of any form. -/
def readQuoted : List Char → Except Fault (String × List Char)
  | '"' :: '"' :: '"' :: rest => readLines '"' true [] ((afterNewline? rest).getD rest)
  | '\'' :: '\'' :: '\'' :: rest => readLines '\'' false [] ((afterNewline? rest).getD rest)
  | '"' :: rest => readBasic [] rest
  | '\'' :: rest => readLiteral rest
  | _ => .error .malformed

end ShaderLayout.Toml
