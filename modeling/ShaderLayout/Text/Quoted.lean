import ShaderLayout.Text.Hidden

/-!
String literals. Text is written between double quotes; quotes, backslashes and
line breaks are escaped, and so is every character of a given class, by its
code point between braces.
-/

namespace ShaderLayout.Text

/-- The escape of a character by its code point. -/
def codePointEscape (c : Char) : List Char :=
  ['\\', 'u', '\x7b'] ++ Nat.toDigits 16 c.toNat ++ ['\x7d']

/-- How a character stands in a literal. -/
def escapeChar (hidden : Char → Bool) (c : Char) : List Char :=
  if c = '"' then ['\\', '"']
  else if c = '\\' then ['\\', '\\']
  else if c = '\n' then ['\\', 'n']
  else if c = '\r' then ['\\', 'r']
  else if c = '\t' then ['\\', 't']
  else if c = '\x00' then ['\\', '0']
  else if hidden c then codePointEscape c
  else [c]

/-- The literal of a text, quotes included. -/
def literalChars (hidden : Char → Bool) (text : List Char) : List Char :=
  '"' :: text.flatMap (escapeChar hidden) ++ ['"']

/-- The literal of a text, with the characters that do not show escaped. -/
def literal (text : String) : String :=
  String.ofList (literalChars isHidden text.toList)

end ShaderLayout.Text
