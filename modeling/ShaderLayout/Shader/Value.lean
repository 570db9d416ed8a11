import ShaderLayout.Shader.Function

/-!
Values of constant expressions: scalars, and vectors, matrices, arrays and
structures of them. Operators work part by part, a scalar beside a vector stands
for all its parts, and numbers without a type follow those that have one.
-/

namespace ShaderLayout.Shader

inductive Value where
  | scalar (value : Constant)
  | composite (type : DataType) (parts : List Value)
  /-- An array or a structure of zeros. -/
  | zero (type : DataType)
  deriving Repr

namespace Value

def type : Value → DataType
  | .scalar value => .scalar value.kind
  | .composite type _ => type
  | .zero type => type

/-- The kind of the numbers in a scalar, a vector or a matrix. -/
def kind? (value : Value) : Option Kind :=
  value.type.kind?

/-- The zero of a type; numbers without a type have none of their own. -/
def ofZero : DataType → Value
  | .scalar (.typed type) => .scalar (.zero type)
  | .vector size (.typed type) =>
    .composite (.vector size (.typed type)) (.replicate size.count (.scalar (.zero type)))
  | .matrix columns rows (.typed type) =>
    .composite (.matrix columns rows (.typed type)) (.replicate columns.count
      (.composite (.vector rows (.typed type)) (.replicate rows.count (.scalar (.zero type)))))
  | type => .zero type

/-- A vector with the same value in all its parts. -/
def splat (size : Extent) (value : Constant) : Value :=
  .composite (.vector size value.kind) (.replicate size.count (.scalar value))

mutual

/-- Changes each scalar in a value, and its types accordingly. -/
def mapScalars (change : Constant → Except Fault Constant) (retype : DataType → DataType) :
    Value → Except Fault Value
  | .scalar value => .scalar <$> change value
  | .composite type parts => .composite (retype type) <$> mapParts change retype parts
  | .zero _ => .error .badValue

def mapParts (change : Constant → Except Fault Constant) (retype : DataType → DataType) :
    List Value → Except Fault (List Value)
  | [] => .ok []
  | part :: parts => do
    let part ← part.mapScalars change retype
    return part :: (← mapParts change retype parts)

end

/-! ### Conversions -/

/-- The value with numbers of another kind. -/
def cast (target : Kind) (value : Value) : Except Fault Value :=
  value.mapScalars (Constant.cast target) (DataType.withKind target)

/-- The value where a type is asked for; only numbers without a type are converted. -/
def convert (goal : DataType) (value : Value) : Except Fault Value :=
  if value.type.same goal then .ok value
  else match value.type.goalKind? goal with
    | some kind => value.cast kind
    | none => .error .badValue

/-- The value with the usual type for its numbers, if they have none. -/
def concretize (value : Value) : Except Fault Value :=
  match value.type.innerKind? with
  | some (.typed _) | none => .ok value
  | some kind => value.cast kind.concrete

/-- The kind of the numbers of some values together. -/
def commonKind? : List Value → Option Kind
  | [] => none
  | value :: values =>
    values.foldl (fun kind? other => do (← kind?).common? (← other.kind?)) value.kind?

/-- Converts all values to the kind that they have together. -/
def unify (values : List Value) : Except Fault (Kind × List Value) :=
  match commonKind? values with
  | some kind => do return (kind, ← values.mapM (cast kind))
  | none => .error .badValue

/-! ### Operators -/

def unary (operator : UnaryOperator) (value : Value) : Except Fault Value :=
  if value.kind?.isSome then value.mapScalars (Constant.unary operator) id
  else .error .badValue

/-- Two operands, a scalar beside a vector made as long as it where they are added or divided. -/
def spread (operator : Operator) (left right : Value) : Value × Value :=
  if [.add, .subtract, .divide, .remainder].contains operator then
    match left, right with
    | .composite (.vector size kind) parts, .scalar value =>
      (.composite (.vector size kind) parts, splat size value)
    | .scalar value, .composite (.vector size kind) parts =>
      (splat size value, .composite (.vector size kind) parts)
    | left, right => (left, right)
  else (left, right)

/-- Two operands with numbers of one kind, where there is one. A shift counts in `u32`. -/
def agree (operator : Operator) (left right : Value) : Except Fault (Value × Value) :=
  if operator.isShift then
    match right.kind? with
    | some kind =>
      if kind = .typed .u32 ∨ kind.becomes (.typed .u32) then do
        return (left, ← right.cast (.typed .u32))
      else .error .badValue
    | none => .error .badValue
  else match commonKind? [left, right] with
    | some kind => do return (← left.cast kind, ← right.cast kind)
    | none => .ok (left, right)

/-- The values of an operator for the parts of two vectors, as far as both go. -/
def combineParts (operator : Operator) : List Value → List Value → Except Fault (List Value)
  | .scalar left :: lefts, .scalar right :: rights => do
    let value ← Constant.combine operator left right
    return .scalar value :: (← combineParts operator lefts rights)
  | [], _ | _, [] => .ok []
  | _, _ => .error .badValue

/-- The value of an operator for operands that agree. -/
def combine (operator : Operator) : Value → Value → Except Fault Value
  | .scalar left, .scalar right => .scalar <$> Constant.combine operator left right
  | .scalar left, right => right.mapScalars (Constant.combine operator left) id
  | left, .scalar right => left.mapScalars (Constant.combine operator · right) id
  | .composite (.vector size kind) lefts, .composite (.vector size' _) rights =>
    if size = size' then
      .composite (.vector size (if operator.isRelation then .typed .bool else kind)) <$>
        combineParts operator lefts rights
    else .error .badValue
  | _, _ => .error .badValue

def binary (operator : Operator) (left right : Value) : Except Fault Value := do
  let (left, right) := spread operator left right
  let (left, right) ← agree operator left right
  combine operator left right

/-! ### Functions -/

/-- Some values as scalars, if they are. -/
def scalars? (values : List Value) : Option (List Constant) :=
  values.mapM fun
    | .scalar value => some value
    | _ => none

/-- Some values as vectors of one size, if they are. -/
def vectors? (size : Extent) (values : List Value) : Option (List (List Value)) :=
  values.mapM fun
    | .composite (.vector size' _) parts => if size = size' then some parts else none
    | _ => none

/-- The value of a function, part by part for vectors. -/
def apply (function : Function) (arguments : List Value) : Except Fault Value :=
  let onScalars (arguments : List Value) : Except Fault Value :=
    match scalars? arguments with
    | some arguments => .scalar <$> function.onScalars arguments
    | none => .error .badValue
  match arguments with
  | .composite (.vector size kind) _ :: _ =>
    match vectors? size arguments with
    | some vectors => do
      let parts ← (List.range size.count).mapM fun index =>
        onScalars (vectors.filterMap (·[index]?))
      return .composite (.vector size kind) parts
    | none => .error .badValue
  | arguments => onScalars arguments

/-! ### Parts -/

/-- A part of a value by its number. -/
def part (value : Value) (index : Nat) : Except Fault Value :=
  let found? := match value with
    | .composite _ parts => parts[index]?
    | .zero type => (type.part? index).map ofZero
    | .scalar _ => none
  match found? with
  | some part => .ok part
  | none => .error .badValue

/-- The value as a count: an integer of 32 bits that is not negative. -/
def count (value : Value) : Except Fault Nat := do
  match ← value.concretize with
  | .scalar (.integer type value) =>
    if (type = some .i32 ∨ type = some .u32) ∧ 0 ≤ value then return value.toNat
    else throw .badValue
  | _ => throw .badValue

/-- The names of the parts of a vector: places, or the channels of a colour. -/
def partNames : List (List Char) :=
  [['x', 'y', 'z', 'w'], ['r', 'g', 'b', 'a']]

/-- The numbers of the parts of a vector that some letters name; all letters are of one kind. -/
def partNumbers? (name : String) : Option (List Nat) :=
  partNames.findSome? fun letters => name.toList.mapM fun c => letters.idxOf? c

/-- A part of a value by its name; several letters make a vector of the parts of a vector. -/
def member (value : Value) (name : String) : Except Fault Value :=
  match value.type with
  | .struct layout _ _ =>
    match layout.fields.findIdx? fun field => field.name == name with
    | some index => value.part index
    | none => .error (.unknownValue name)
  | .vector _ kind =>
    match partNumbers? name with
    | some [index] => value.part index
    | some indices =>
      match Extent.all.find? fun size => size.count = indices.length with
      | some size => do
        return .composite (.vector size kind) (← indices.mapM value.part)
      | none => .error (.unknownValue name)
    | none => .error (.unknownValue name)
  | _ => .error (.unknownValue name)

end Value

end ShaderLayout.Shader
