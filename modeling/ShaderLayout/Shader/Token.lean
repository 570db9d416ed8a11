import ShaderLayout.Shader.Syntax
import ShaderLayout.Text.Digits
import ShaderLayout.Text.Word

/-!
Tokens of shader modules. Comments and blanks stand between tokens; block
comments nest, and one that does not end hides the rest of the text. Every other
character that starts neither a word nor a number is a token of its own, which
tells whether it may be the first half of an operator of two characters.
-/

namespace ShaderLayout.Shader

open Text

inductive Token where
  | word (text : String)
  | number (value : Literal)
  | symbol (char : Char) (joined : Bool)
  /-- A number that no type can hold or that is badly formed. -/
  | badNumber
  deriving DecidableEq, Repr

def isLineEnd (c : Char) : Bool :=
  ('\n' ≤ c && c ≤ '\r') || c == '\u0085' || c == '\u2028' || c == '\u2029'

def isBlank (c : Char) : Bool :=
  c == ' ' || c == '\t' || isLineEnd c || c == '\u200e' || c == '\u200f'

/-- The rest behind a block comment that is open `depth + 1` times. -/
def skipBlock : Nat → List Char → List Char
  | _, [] => []
  | depth, '/' :: '*' :: rest => skipBlock (depth + 1) rest
  | 0, '*' :: '/' :: rest => rest
  | depth + 1, '*' :: '/' :: rest => skipBlock depth rest
  | depth, _ :: rest => skipBlock depth rest

/-! ### Numbers -/

/-- An integer of a type, or of none, that has to be small enough for it. -/
def integerToken (type : Option Scalar) (value : Nat) : Token :=
  let bound := match type with
    | some .i32 => Nat.pow 2 31
    | some .u32 => Nat.pow 2 32
    | some .u64 => Nat.pow 2 64
    | _ => Nat.pow 2 63
  if value < bound then .number (.integer type value) else .badNumber

/-- A float of a type, or of none, that must not be too large for it. -/
def floatToken (type : Option Scalar) (value : Floating) : Token :=
  if value.isFinite then .number (.float type value) else .badNumber

/-- A float by its suffix and the rest, with its value in each precision; half-width floats are
not known. -/
def scanFloat (value : Precision → Floating) : List Char → Token × List Char
  | 'f' :: rest => (floatToken (some .f32) (value .single), rest)
  | 'l' :: 'f' :: rest => (floatToken (some .f64) (value .double), rest)
  | 'h' :: rest => (.badNumber, rest)
  | rest => (floatToken none (value .double), rest)

/-- The exponent behind one of two letters and the rest; zero without such a letter, and nothing
for a letter without digits. -/
def scanExponent (lower upper : Char) : List Char → Option (Int × List Char)
  | [] => some (0, [])
  | c :: rest =>
    if c = lower ∨ c = upper then
      let (negative, rest) := match rest with
        | '-' :: rest => (true, rest)
        | '+' :: rest => (false, rest)
        | rest => (false, rest)
      let (digits, rest) := rest.span Char.isDigit
      let size : Int := ofDigits 10 digits
      if digits.isEmpty then none else some (if negative then -size else size, rest)
    else some (0, c :: rest)

/-- The digits behind a point and the rest, if there is a point. -/
def scanFraction (isDigit : Char → Bool) : List Char → Option (List Char × List Char)
  | '.' :: rest => some (rest.span isDigit)
  | _ => none

/-- Whether a float follows that has no point: one with an exponent. -/
def startsExponent (lower upper : Char) (text : List Char) : Bool :=
  text.head? = some lower || text.head? = some upper

/-- A number in base sixteen, from behind its `0x`. As a float it has a binary exponent, and no
digit of it may get lost; only integers of 32 bits can have a suffix. -/
def hexNumber (text : List Char) : Token × List Char :=
  let (whole, rest) := text.span isHexDigit
  match scanFraction isHexDigit rest with
  | some (fraction, rest) =>
    let mantissa := ofDigits 16 (whole ++ fraction)
    let value (exponent : Int) (precision : Precision) : Floating :=
      .ofBinary precision mantissa (exponent - 4 * fraction.length)
    if whole.isEmpty ∧ fraction.isEmpty then (.badNumber, rest)
    else if startsExponent 'p' 'P' rest then
      match scanExponent 'p' 'P' rest with
      | some (exponent, rest) => scanFloat (value exponent) rest
      | none => (.badNumber, rest)
    else (floatToken none (value 0 .double), rest)
  | none =>
    let mantissa := ofDigits 16 whole
    if whole.isEmpty then (.badNumber, rest)
    else if startsExponent 'p' 'P' rest then
      match scanExponent 'p' 'P' rest with
      | some (exponent, rest) => scanFloat (.ofBinary · mantissa exponent) rest
      | none => (.badNumber, rest)
    else match rest with
      | 'i' :: rest => (integerToken (some .i32) mantissa, rest)
      | 'u' :: rest => (integerToken (some .u32) mantissa, rest)
      | rest => (integerToken none mantissa, rest)

/-- A decimal number without a point or an exponent: an integer, or a float by its suffix. -/
def wholeNumber (digits rest : List Char) : Token × List Char :=
  let value := ofDigits 10 digits
  if digits.length > 1 ∧ digits.head? = some '0' then (.badNumber, rest)
  else match rest with
    | 'i' :: rest => (integerToken (some .i32) value, rest)
    | 'u' :: rest => (integerToken (some .u32) value, rest)
    | 'l' :: 'i' :: rest => (integerToken (some .i64) value, rest)
    | 'l' :: 'u' :: rest => (integerToken (some .u64) value, rest)
    | 'f' :: _ | 'h' :: _ | 'l' :: 'f' :: _ => scanFloat (.ofDecimal · value 0) rest
    | rest => (integerToken none value, rest)

/-- A decimal number: an integer, or a float with a fraction, an exponent or a suffix. -/
def decimalNumber (text : List Char) : Token × List Char :=
  let (whole, rest) := text.span Char.isDigit
  match scanFraction Char.isDigit rest with
  | none =>
    if startsExponent 'e' 'E' rest then
      match scanExponent 'e' 'E' rest with
      | some (exponent, rest) => scanFloat (.ofDecimal · (ofDigits 10 whole) exponent) rest
      | none => (.badNumber, rest)
    else wholeNumber whole rest
  | some (fraction, rest) =>
    match scanExponent 'e' 'E' rest with
    | some (exponent, rest) =>
      let digits := ofDigits 10 (whole ++ fraction)
      scanFloat (.ofDecimal · digits (exponent - fraction.length)) rest
    | none => (.badNumber, rest)

def scanNumber : List Char → Token × List Char
  | '0' :: 'x' :: rest | '0' :: 'X' :: rest => hexNumber rest
  | text => decimalNumber text

/-- Whether a number starts here. -/
def startsNumber : List Char → Bool
  | '.' :: c :: _ => c.isDigit
  | c :: _ => c.isDigit
  | [] => false

/-- Whether a character can be the second one of an operator. -/
def endsOperator (c : Char) : Bool :=
  ['<', '>', '=', '&', '|', '-'].contains c

/-- The token at the front of a text, if it is one, and the rest behind it. -/
def scanOne (c : Char) (rest : List Char) : Option Token × List Char :=
  if isBlank c then (none, rest)
  else if c = '/' ∧ rest.head? = some '/' then (none, rest.dropWhile fun c => !isLineEnd c)
  else if c = '/' ∧ rest.head? = some '*' then (none, skipBlock 0 rest.tail)
  else if startsWord c then
    (some (.word (String.ofList (c :: rest.takeWhile inWord))), rest.dropWhile inWord)
  else if startsNumber (c :: rest) then
    let (token, after) := scanNumber (c :: rest)
    (some token, after)
  else (some (.symbol c (rest.head?.any endsOperator)), rest)

/-- The tokens of a text, at most `count` of them and of the blanks between. -/
def scanUpTo : Nat → List Char → List Token
  | 0, _ | _, [] => []
  | count + 1, c :: rest =>
    let (token, after) := scanOne c rest
    token.toList ++ scanUpTo count after

/-- The tokens of a text; each takes a character at least. -/
def scan (text : List Char) : List Token :=
  scanUpTo text.length text

end ShaderLayout.Shader
