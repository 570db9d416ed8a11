import ShaderLayout.Shader.DataType
import ShaderLayout.Shader.Fault

/-!
Numbers and truth values in constant expressions. Operands have to be of one
type, and nothing may leave the range of its type. Integers of 64 bits and floats
of 64 bits can be written down, converted and compared, but not calculated with.
-/

namespace ShaderLayout.Shader

/-- A scalar value; a number without a type has 64 bits. -/
inductive Constant where
  | integer (type : Option Scalar) (value : Int)
  | float (type : Option Scalar) (value : Floating)
  | boolean (value : Bool)
  deriving DecidableEq, Repr

/-- Whether an integer type can hold a value. -/
def holds (type : Option Scalar) (value : Int) : Bool :=
  match type with
  | some .i32 => -(Nat.pow 2 31) ≤ value && value < Nat.pow 2 31
  | some .u32 => 0 ≤ value && value < Nat.pow 2 32
  | some .u64 => 0 ≤ value && value < Nat.pow 2 64
  | some .i64 | none => -(Nat.pow 2 63) ≤ value && value < Nat.pow 2 63
  | _ => false

/-- The value with the same last bits that an integer type can hold. -/
def wrap (type : Scalar) (value : Int) : Int :=
  match type with
  | .i32 => value.bmod (Nat.pow 2 32)
  | .u32 => value % (Nat.pow 2 32 : Nat)
  | .u64 => value % (Nat.pow 2 64 : Nat)
  | _ => value.bmod (Nat.pow 2 64)

/-- The value nearest to a given one that an integer type can hold. -/
def clampTo (type : Scalar) (value : Int) : Int :=
  let (least, greatest) : Int × Int := match type with
    | .i32 => (-(Nat.pow 2 31), Nat.pow 2 31 - 1)
    | .u32 => (0, Nat.pow 2 32 - 1)
    | .u64 => (0, Nat.pow 2 64 - 1)
    | _ => (-(Nat.pow 2 63), Nat.pow 2 63 - 1)
  max least (min greatest value)

def Scalar.isInteger : Scalar → Bool
  | .i32 | .u32 | .i64 | .u64 => true
  | _ => false

/-- The precision of a float type; a float without a type has the greater one. -/
def precisionOf : Option Scalar → Precision
  | some .f32 => .single
  | _ => .double

namespace Constant

def kind : Constant → Kind
  | .integer none _ => .whole
  | .float none _ => .real
  | .integer (some type) _ | .float (some type) _ => .typed type
  | .boolean _ => .typed .bool

def ofLiteral : Literal → Constant
  | .integer type value => .integer type value
  | .float type value => .float type value
  | .boolean value => .boolean value

/-- An integer, if its type can hold it. -/
def integer? (type : Option Scalar) (value : Int) : Except Fault Constant :=
  if holds type value then .ok (.integer type value) else .error .badValue

/-- A float; one with a type has to be finite. -/
def float? (type : Option Scalar) (value : Floating) : Except Fault Constant :=
  if type.isNone ∨ value.isFinite then .ok (.float type value) else .error .badValue

/-- The zero of a type. -/
def zero : Scalar → Constant
  | .bool => .boolean false
  | .f32 => .float (some .f32) (.finite false 0 0)
  | .f64 => .float (some .f64) (.finite false 0 0)
  | type => .integer (some type) 0

/-! ### Conversions -/

/-- An integer as a number of a type. -/
def ofInt (type : Scalar) (value : Int) : Constant :=
  if type = .bool then .boolean (value != 0)
  else if type.isFloat then .float (some type) (.ofInt (precisionOf type) value)
  else .integer (some type) (wrap type value)

/-- A float as a number of a type. -/
def ofFloating (type : Scalar) (value : Floating) : Except Fault Constant :=
  if type = .bool then .ok (.boolean !value.isZero)
  else if type.isFloat then float? (some type) (value.withPrecision (precisionOf type))
  else match value.toInt? .toZero with
    | some value => .ok (.integer (some type) (clampTo type value))
    | none => .error .badValue

/-- The types that a number with a type may be converted to: integers of 64 bits only among
themselves, floats of 64 bits also to such integers, and others to all types. -/
def convertible (source target : Scalar) : Bool :=
  match source with
  | .i64 | .u64 => target = .i64 || target = .u64
  | .f64 => target = .f64 || target = .i64 || target = .u64
  | _ => true

/-- The value as one of another kind; a number never loses its type. A whole number without a type
has to fit, and a real one becomes no integer. -/
def cast (target : Kind) (value : Constant) : Except Fault Constant :=
  match value, target with
  | .integer none value, .whole => .ok (.integer none value)
  | .integer none value, .real => .ok (.float none (.ofInt .double value))
  | .integer none value, .typed type =>
    if type.isInteger then integer? (some type) value else .ok (ofInt type value)
  | .float none value, .real => .ok (.float none value)
  | .float none value, .typed type =>
    if type.isInteger then .error .badValue else ofFloating type value
  | .integer (some source) value, .typed type =>
    if convertible source type then .ok (ofInt type value) else .error .badValue
  | .float (some source) value, .typed type =>
    if convertible source type then ofFloating type value else .error .badValue
  | .boolean value, .typed type =>
    .ok (if type = .bool then .boolean value else ofInt type (if value then 1 else 0))
  | _, _ => .error .badValue

/-! ### Operators -/

/-- Whether integers of a type can be calculated with. -/
def calculates : Option Scalar → Bool
  | none | some .i32 | some .u32 => true
  | _ => false

/-- The negative of a number; the least integer of a type is its own. -/
def negate : Constant → Except Fault Constant
  | .integer type value =>
    if type = none ∨ type = some .i32 then
      .ok (.integer type (if holds type (-value) then -value else value))
    else .error .badValue
  | .float type value =>
    if type = some .f64 then .error .badValue else .ok (.float type value.negate)
  | .boolean _ => .error .badValue

/-- The integer with all bits changed. -/
def complement : Constant → Except Fault Constant
  | .integer type value =>
    if type = some .u32 then .ok (.integer type (Nat.pow 2 32 - 1 - value))
    else if calculates type then .ok (.integer type (-value - 1))
    else .error .badValue
  | _ => .error .badValue

def not : Constant → Except Fault Constant
  | .boolean value => .ok (.boolean !value)
  | _ => .error .badValue

def unary : UnaryOperator → Constant → Except Fault Constant
  | .negate => negate
  | .complement => complement
  | .not => not

/-- The integer that an operation on the bits of two others gives. -/
def onBits (operation : BitVec 64 → BitVec 64 → BitVec 64) (left right : Int) : Int :=
  (operation (.ofInt 64 left) (.ofInt 64 right)).toInt

/-- The value that an operator gives for integers of one type; division goes toward zero, and
there is no remainder where there is no quotient. -/
def integerResult (type : Option Scalar) (operator : Operator) (left right : Int) :
    Except Fault Int :=
  match operator with
  | .add => .ok (left + right)
  | .subtract => .ok (left - right)
  | .multiply => .ok (left * right)
  | .divide => if right = 0 then .error .badValue else .ok (left.tdiv right)
  | .remainder =>
    if right = 0 ∨ !holds type (left.tdiv right) then .error .badValue
    else .ok (left.tmod right)
  | .bitAnd => .ok (onBits (· &&& ·) left right)
  | .bitXor => .ok (onBits (· ^^^ ·) left right)
  | .bitOr => .ok (onBits (· ||| ·) left right)
  | _ => .error .badValue

/-- The value that an operator gives for floats of one precision. -/
def floatResult (precision : Precision) (operator : Operator) (left right : Floating) :
    Except Fault Floating :=
  match operator with
  | .add => .ok (left.add precision right)
  | .subtract => .ok (left.add precision right.negate)
  | .multiply => .ok (left.multiply precision right)
  | .divide => .ok (left.divide precision right)
  | .remainder => .ok (left.remainder right)
  | _ => .error .badValue

/-- A shift by less than 32 bits; no set bit may be shifted out to the left. -/
def shift (operator : Operator) (type : Option Scalar) (value count : Int) :
    Except Fault Constant :=
  if (type = some .i32 ∨ type = some .u32) ∧ count < 32 then
    let factor : Nat := Nat.pow 2 count.toNat
    match operator with
    | .shiftLeft => integer? type (value * factor)
    | .shiftRight => .ok (.integer type (value / factor))
    | _ => .error .badValue
  else .error .badValue

/-- The types in their order, which is that of constants of two types. -/
def kindOrder : List Kind :=
  [.typed .f64, .typed .f32, .typed .u32, .typed .i32, .typed .u64, .typed .i64, .typed .bool,
    .whole, .real]

/-- The order of two constants, if they have one. -/
def compare? (left right : Constant) : Option Ordering :=
  if left.kind = right.kind then
    match left, right with
    | .integer _ left, .integer _ right => some (compare left right)
    | .float _ left, .float _ right => left.compare? right
    | .boolean left, .boolean right => some (compare left.toNat right.toNat)
    | _, _ => none
  else some (compare (kindOrder.idxOf left.kind) (kindOrder.idxOf right.kind))

/-- Whether a relation holds in an order; without an order two values are just unequal. -/
def relates (operator : Operator) (order : Option Ordering) : Bool :=
  match operator with
  | .equal => order = some .eq
  | .unequal => order ≠ some .eq
  | .less => order = some .lt
  | .lessEqual => order = some .lt || order = some .eq
  | .greater => order = some .gt
  | .greaterEqual => order = some .gt || order = some .eq
  | _ => false

/-- The value of an operator. -/
def combine (operator : Operator) (left right : Constant) : Except Fault Constant :=
  if operator.isRelation then .ok (.boolean (relates operator (left.compare? right)))
  else match left, right with
    | .integer type value, .integer type' value' => do
      if operator.isShift then
        if type' = some .u32 then shift operator type value value' else throw .badValue
      else if type = type' ∧ calculates type then
        integer? type (← integerResult type operator value value')
      else throw .badValue
    | .float type value, .float type' value' => do
      if type = type' ∧ type ≠ some .f64 then
        float? type (← floatResult (precisionOf type) operator value value')
      else throw .badValue
    | .boolean value, .boolean value' =>
      match operator with
      | .and => .ok (.boolean (value && value'))
      | .or => .ok (.boolean (value || value'))
      | _ => .error .badValue
    | _, _ => .error .badValue

end Constant

end ShaderLayout.Shader
