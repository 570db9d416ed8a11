/-!
Floating-point numbers with a binary mantissa. Every operation takes the exact
result and rounds it once: to the nearest number of the precision, and to the one
with an even mantissa where two are equally near.
-/

namespace ShaderLayout.Shader

structure Precision where
  /-- The binary digits of a mantissa. -/
  digits : Nat
  /-- The least exponent; numbers near zero have it and fewer digits. -/
  least : Int
  /-- The numbers stay below this power of two. -/
  limit : Int
  deriving DecidableEq, Repr

def Precision.single : Precision := ⟨24, -149, 128⟩

def Precision.double : Precision := ⟨53, -1074, 1024⟩

inductive Floating where
  /-- A mantissa times a power of two; zeros have a sign too. -/
  | finite (negative : Bool) (mantissa : Nat) (exponent : Int)
  | infinite (negative : Bool)
  /-- The result of an operation that has none, such as zero by zero. -/
  | undefined
  deriving DecidableEq, Repr

namespace Floating

def twoTo (n : Nat) : Nat := Nat.pow 2 n

/-- The fraction `numerator / denominator / 2 ^ exponent`. -/
def rescale (numerator denominator : Nat) (exponent : Int) : Nat × Nat :=
  if exponent < 0 then (numerator * twoTo exponent.natAbs, denominator)
  else (numerator, denominator * twoTo exponent.natAbs)

/-- The natural number nearest to a fraction, the even one of two. -/
def nearest (numerator denominator : Nat) : Nat :=
  let quotient := numerator / denominator
  let rest := numerator % denominator
  if 2 * rest < denominator then quotient
  else if 2 * rest > denominator then quotient + 1
  else quotient + quotient % 2

/-- The exponent for a fraction: the one that leaves it as many digits as the precision has. -/
def exponentFor (precision : Precision) (numerator denominator : Nat) : Int :=
  let estimate : Int := numerator.log2 - denominator.log2 - precision.digits
  let (top, bottom) := rescale numerator denominator estimate
  let exponent := if top / bottom < twoTo precision.digits then estimate else estimate + 1
  max precision.least exponent

/-- A fraction in a precision; what is too large becomes infinite. -/
def ofFraction (precision : Precision) (negative : Bool) (numerator denominator : Nat) :
    Floating :=
  if numerator = 0 then .finite negative 0 0
  else
    let exponent := exponentFor precision numerator denominator
    let (top, bottom) := rescale numerator denominator exponent
    let mantissa := nearest top bottom
    if mantissa.log2 + exponent < precision.limit then .finite negative mantissa exponent
    else .infinite negative

/-- The number `mantissa * 2 ^ exponent` in a precision. -/
def scaled (precision : Precision) (negative : Bool) (mantissa : Nat) (exponent : Int) :
    Floating :=
  let (top, bottom) := rescale mantissa 1 (-exponent)
  ofFraction precision negative top bottom

def ofInt (precision : Precision) (value : Int) : Floating :=
  ofFraction precision (value < 0) value.natAbs 1

/-- The number `digits * 10 ^ exponent`; numbers far out of range are not worked out. -/
def ofDecimal (precision : Precision) (digits : Nat) (exponent : Int) : Floating :=
  if digits = 0 then .finite false 0 0
  else if exponent > 400 then .infinite false
  else if digits.log2 + exponent < -400 then .finite false 0 0
  else if exponent < 0 then ofFraction precision false digits (Nat.pow 10 exponent.natAbs)
  else ofFraction precision false (digits * Nat.pow 10 exponent.natAbs) 1

/-- The whole multiple of `2 ^ least` that a finite number is, for a `least` up to its exponent. -/
def multiple (negative : Bool) (mantissa : Nat) (exponent least : Int) : Int :=
  let size : Int := mantissa * twoTo (exponent - least).toNat
  if negative then -size else size

/-- The order of two numbers, if they have one. -/
def compare? : Floating → Floating → Option Ordering
  | .undefined, _ | _, .undefined => none
  | .infinite left, .infinite right =>
    some (if left = right then .eq else if left then .lt else .gt)
  | .infinite negative, _ => some (if negative then .lt else .gt)
  | _, .infinite negative => some (if negative then .gt else .lt)
  | .finite left m e, .finite right n f =>
    let least := min e f
    some (compare (multiple left m e least) (multiple right n f least))

/-- The number `mantissa * 2 ^ exponent`, if no digit gets lost; undefined otherwise. -/
def ofBinary (precision : Precision) (mantissa : Nat) (exponent : Int) : Floating :=
  if mantissa = 0 then .finite false 0 0
  else if exponent > 2000 ∨ mantissa.log2 + exponent < -2000 then .undefined
  else
    let number := scaled precision false mantissa exponent
    if compare? number (.finite false mantissa exponent) = some .eq then number else .undefined

def isFinite : Floating → Bool
  | .finite .. => true
  | _ => false

def isZero : Floating → Bool
  | .finite _ mantissa _ => mantissa = 0
  | _ => false

/-- The number with the precision of another; an infinite one stays so. -/
def withPrecision (precision : Precision) : Floating → Floating
  | .finite negative mantissa exponent => scaled precision negative mantissa exponent
  | number => number

def negate : Floating → Floating
  | .finite negative mantissa exponent => .finite (!negative) mantissa exponent
  | .infinite negative => .infinite (!negative)
  | .undefined => .undefined

def add (precision : Precision) : Floating → Floating → Floating
  | .undefined, _ | _, .undefined => .undefined
  | .infinite left, .infinite right => if left = right then .infinite left else .undefined
  | .infinite negative, _ | _, .infinite negative => .infinite negative
  | .finite left m e, .finite right n f =>
    let least := min e f
    let sum := multiple left m e least + multiple right n f least
    if sum = 0 then .finite (left && right) 0 0
    else scaled precision (sum < 0) sum.natAbs least

def multiply (precision : Precision) : Floating → Floating → Floating
  | .undefined, _ | _, .undefined => .undefined
  | .infinite left, .infinite right => .infinite (left != right)
  | .infinite left, .finite right mantissa _ | .finite right mantissa _, .infinite left =>
    if mantissa = 0 then .undefined else .infinite (left != right)
  | .finite left m e, .finite right n f => scaled precision (left != right) (m * n) (e + f)

def divide (precision : Precision) : Floating → Floating → Floating
  | .undefined, _ | _, .undefined | .infinite _, .infinite _ => .undefined
  | .infinite left, .finite right _ _ => .infinite (left != right)
  | .finite left _ _, .infinite right => .finite (left != right) 0 0
  | .finite left m e, .finite right n f =>
    if n = 0 then
      if m = 0 then .undefined else .infinite (left != right)
    else
      let (top, bottom) := rescale m n (f - e)
      ofFraction precision (left != right) top bottom

/-- What a division toward zero leaves, with the sign of the left number; it is always exact. -/
def remainder : Floating → Floating → Floating
  | .undefined, _ | _, .undefined | .infinite _, _ => .undefined
  | number, .infinite _ => number
  | .finite negative m e, .finite _ n f =>
    if n = 0 then .undefined
    else
      let least := min e f
      .finite negative ((m * twoTo (e - least).toNat) % (n * twoTo (f - least).toNat)) least

/-- How a number is brought to a whole one. -/
inductive Mode where
  | down | up | toZero | nearest
  deriving DecidableEq, Repr

/-- The whole number that a finite number is brought to. -/
def toInt? (mode : Mode) : Floating → Option Int
  | .finite negative mantissa exponent =>
    let (top, bottom) := rescale mantissa 1 (-exponent)
    let size := match mode with
      | .toZero => top / bottom
      | .nearest => nearest top bottom
      | .down => if negative then (top + bottom - 1) / bottom else top / bottom
      | .up => if negative then top / bottom else (top + bottom - 1) / bottom
    some (if negative then -(size : Int) else size)
  | _ => none

end Floating

end ShaderLayout.Shader
