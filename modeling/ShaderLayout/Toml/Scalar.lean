import ShaderLayout.Text.Digits
import ShaderLayout.Toml.Value

/-!
Bare scalars: integers, floats, dates and times, truth values. A scalar is read
as one run of characters, which has to be of one of these forms from end to end.
-/

namespace ShaderLayout.Toml

open Text

/-- The digits of a group, in which single underscores may stand between digits. -/
def groupDigits? (isDigit : Char → Bool) (text : List Char) : Option (List Char) :=
  let groups := text.splitOn '_'
  if groups.all fun group => !group.isEmpty && group.all isDigit then some groups.flatten else none

/-- The sign of a number, if it has one, and the rest. -/
def splitSign : List Char → Option Char × List Char
  | '+' :: rest => (some '+', rest)
  | '-' :: rest => (some '-', rest)
  | rest => (none, rest)

/-- Decimal digits without a leading zero. -/
def decimalDigits? (text : List Char) : Option (List Char) := do
  let digits ← groupDigits? Char.isDigit text
  if digits.length > 1 ∧ digits.head? = some '0' then none else some digits

def inRange (value : Int) : Bool :=
  -(Nat.pow 2 63) ≤ value && value < Nat.pow 2 63

/-- Integers have 64 bits; those in another base have no sign. -/
def integer? (text : List Char) : Option Value := do
  let value : Int ← match text with
    | '0' :: 'x' :: rest => (groupDigits? isHexDigit rest).map fun digits => ofDigits 16 digits
    | '0' :: 'o' :: rest =>
      (groupDigits? (fun c => '0' ≤ c && c ≤ '7') rest).map fun digits => ofDigits 8 digits
    | '0' :: 'b' :: rest =>
      (groupDigits? (fun c => c == '0' || c == '1') rest).map fun digits => ofDigits 2 digits
    | text =>
      let (sign, rest) := splitSign text
      (decimalDigits? rest).map fun digits =>
        if sign = some '-' then -(ofDigits 10 digits : Int) else ofDigits 10 digits
  if inRange value then some (.integer value) else none

/-- Splits text at the first character that passes the test, which is dropped. -/
def splitFirst (test : Char → Bool) (text : List Char) : List Char × Option (List Char) :=
  let (before, after) := text.span fun c => !test c
  match after with
  | [] => (before, none)
  | _ :: after => (before, some after)

/-- The value of an exponent. -/
def exponent? (text : List Char) : Option Int := do
  let (sign, rest) := splitSign text
  let digits ← groupDigits? Char.isDigit rest
  return if sign = some '-' then -(ofDigits 10 digits : Int) else ofDigits 10 digits

/-- Whether `mantissa * 10 ^ exponent` rounds to a finite number of 64 bits. -/
def isFiniteDecimal (mantissa : List Char) (exponent : Int) : Bool :=
  let digits := mantissa.dropWhile (· == '0')
  let magnitude := digits.length + exponent
  if digits.isEmpty || magnitude < 300 then true
  else if magnitude > 310 then false
  else
    ofDigits 10 digits * Nat.pow 10 exponent.toNat <
      (Nat.pow 2 1024 - Nat.pow 2 970) * Nat.pow 10 (-exponent).toNat

/-- Floats have a fraction, an exponent or both; one that is too large is refused. -/
def float? (text : List Char) : Option Value := do
  let (sign, rest) := splitSign text
  if rest = "inf".toList ∨ rest = "nan".toList then return .float
  let (number, exponent) := splitFirst (fun c => c == 'e' || c == 'E') rest
  let (whole, fraction) := splitFirst (· == '.') number
  if exponent.isNone ∧ fraction.isNone then none
  let whole ← decimalDigits? whole
  let fraction ← match fraction with
    | some digits => groupDigits? Char.isDigit digits
    | none => some []
  let exponent ← match exponent with
    | some digits => exponent? digits
    | none => some 0
  if sign = some '-' ∨ isFiniteDecimal (whole ++ fraction) (exponent - fraction.length) then
    return .float
  else none

/-- The value of exactly `count` decimal digits. -/
def fixedDigits? (count : Nat) (text : List Char) : Option Nat :=
  if text.length = count ∧ text.all Char.isDigit then some (ofDigits 10 text) else none

def isLeapYear (year : Nat) : Bool :=
  year % 4 == 0 && (year % 100 != 0 || year % 400 == 0)

def daysIn (year month : Nat) : Nat :=
  if month = 2 then if isLeapYear year then 29 else 28
  else if month = 4 ∨ month = 6 ∨ month = 9 ∨ month = 11 then 30
  else 31

/-- Dates are `year-month-day`. -/
def isDate (text : List Char) : Bool :=
  match text.splitOn '-' with
  | [year, month, day] =>
    match fixedDigits? 4 year, fixedDigits? 2 month, fixedDigits? 2 day with
    | some year, some month, some day =>
      1 ≤ month && month ≤ 12 && 1 ≤ day && day ≤ daysIn year month
    | _, _, _ => false
  | _ => false

/-- Two digits with a value up to `limit`. -/
def isUpTo (limit : Nat) (text : List Char) : Bool :=
  match fixedDigits? 2 text with
  | some value => value ≤ limit
  | none => false

/-- Seconds may have a fraction; the sixtieth is a leap second. -/
def isSecond (text : List Char) : Bool :=
  match splitFirst (· == '.') text with
  | (second, none) => isUpTo 60 second
  | (second, some fraction) => isUpTo 60 second && !fraction.isEmpty && fraction.all Char.isDigit

/-- Times are `hour:minute:second`. -/
def isTime (text : List Char) : Bool :=
  match text.splitOn ':' with
  | [hour, minute, second] => isUpTo 23 hour && isUpTo 59 minute && isSecond second
  | _ => false

/-- The distance from universal time, `hour:minute`. -/
def isDistance (text : List Char) : Bool :=
  match text.splitOn ':' with
  | [hour, minute] => isUpTo 23 hour && isUpTo 59 minute
  | _ => false

/-- A time that may name its distance from universal time. -/
def isOffsetTime (text : List Char) : Bool :=
  let (time, rest) := text.span fun c => c.isDigit || c == ':' || c == '.'
  isTime time && match rest with
    | [] => true
    | ['Z'] | ['z'] => true
    | sign :: distance => (sign == '+' || sign == '-') && isDistance distance

def datetime? (text : List Char) : Option Value :=
  let (date, rest) := text.splitAt 10
  let isMoment := isDate date && match rest with
    | [] => true
    | delimiter :: time =>
      (delimiter == 'T' || delimiter == 't' || delimiter == ' ') && isOffsetTime time
  if isMoment || isTime text then some .datetime else none

def boolean? (text : List Char) : Option Value :=
  if text = "true".toList then some (.boolean true)
  else if text = "false".toList then some (.boolean false)
  else none

/-- The value of a bare scalar. -/
def scalar? (text : List Char) : Option Value :=
  boolean? text <|> datetime? text <|> float? text <|> integer? text

def inScalar (c : Char) : Bool :=
  c.isAlphanum || c == '_' || c == '+' || c == '-' || c == '.' || c == ':'

/-- Cuts a bare scalar off. A date may be followed by a space and a time. -/
def cutScalar (text : List Char) : List Char × List Char :=
  let (first, rest) := text.span inScalar
  match rest with
  | ' ' :: next :: _ =>
    if isDate first && next.isDigit then
      let (second, rest) := rest.tail.span inScalar
      (first ++ ' ' :: second, rest)
    else (first, rest)
  | _ => (first, rest)

def readScalar (text : List Char) : Except Fault (Value × List Char) :=
  let (run, rest) := cutScalar text
  match scalar? run with
  | some value => .ok (value, rest)
  | none => .error .malformed

end ShaderLayout.Toml
