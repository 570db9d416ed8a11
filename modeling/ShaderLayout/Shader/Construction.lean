import ShaderLayout.Shader.Value

/-!
Construction of values. A type applied to arguments builds a value of it: a zero
from nothing, a conversion from one value, and a composite from several ones. A
vector takes scalars and the parts of vectors, a matrix columns or scalars. That
there are enough arguments shows only where a missing part is used.
-/

namespace ShaderLayout.Shader

/-- A type that can be applied to arguments; the component that it lacks comes from them. -/
inductive Shape where
  | type (type : DataType)
  | vector (size : Extent)
  | matrix (columns rows : Extent)
  | array

namespace Shape

/-- The parts that an argument adds to a vector. -/
def spreadParts : Value → List Value
  | .composite (.vector ..) parts => parts
  | value => [value]

/-- A vector of the parts of its arguments. -/
def vectorOf (size : Extent) (kind : Kind) (arguments : List Value) : Value :=
  .composite (.vector size kind) ((arguments.flatMap spreadParts).take size.count)

/-- A scalar or a vector as such with the numbers of a vector. -/
def convertPart (kind : Kind) (value : Value) : Except Fault Value :=
  match value.type with
  | .scalar _ => value.convert (.scalar kind)
  | .vector size _ => value.convert (.vector size kind)
  | _ => .error .badValue

/-- Vectors of the next scalars each. -/
def columnsOf (rows : Extent) (kind : Kind) : Nat → List Value → List Value
  | 0, _ => []
  | columns + 1, parts =>
    .composite (.vector rows kind) (parts.take rows.count) ::
      columnsOf rows kind columns (parts.drop rows.count)

/-- Whether so many arguments are the scalars of a matrix, and not its columns. -/
def areScalars (columns rows : Extent) (arguments : List Value) : Bool :=
  arguments.length = columns.count * rows.count

/-- A matrix of its scalars or its columns. -/
def matrixOf (columns rows : Extent) (kind : Kind) (arguments : List Value) : Value :=
  .composite (.matrix columns rows kind)
    (if areScalars columns rows arguments then columnsOf rows kind columns.count arguments
    else arguments)

/-- A value from one argument, for the types that convert one. -/
def ofOne (shape : Shape) (argument : Value) : Except Fault Value :=
  match shape, argument, argument.type with
  | .type (.scalar kind), _, .scalar _ => argument.cast kind
  | .type (.vector size kind), .scalar value, _ => Value.splat size <$> value.cast kind
  | .type (.vector size kind), _, .vector size' _ =>
    if size = size' then argument.cast kind else .error .badValue
  | .vector size, .scalar value, _ => .ok (.splat size value)
  | .vector size, _, .vector size' _ => if size = size' then .ok argument else .error .badValue
  | .type (.matrix columns rows kind), _, .matrix columns' rows' _ =>
    if columns = columns' ∧ rows = rows' then argument.cast kind else .error .badValue
  | .matrix columns rows, _, .matrix columns' rows' _ =>
    if columns = columns' ∧ rows = rows' then .ok argument else .error .badValue
  | _, _, _ => .error .badValue

/-- Converts the arguments to the types of members; further arguments stay as they are. -/
def convertMembers : List DataType → List Value → Except Fault (List Value)
  | goal :: goals, argument :: arguments => do
    let argument ← argument.convert goal
    return argument :: (← convertMembers goals arguments)
  | _, arguments => .ok arguments

/-- A value from its parts. -/
def ofParts (shape : Shape) (arguments : List Value) : Except Fault Value :=
  match shape with
  | .type (.vector size kind) => do
    return vectorOf size kind (← arguments.mapM (convertPart kind))
  | .vector size => do
    let (kind, arguments) ← Value.unify arguments
    return vectorOf size kind arguments
  | .type (.matrix columns rows kind) => do
    let part : DataType := if areScalars columns rows arguments then .scalar kind
      else .vector rows kind
    return matrixOf columns rows kind (← arguments.mapM (Value.convert part))
  | .matrix columns rows => do
    let (kind, arguments) ← Value.unify arguments
    let kind := (kind.common? .real).getD kind
    return matrixOf columns rows kind (← arguments.mapM (Value.cast kind))
  | .type (.array element length) => do
    return .composite (.array element length) (← arguments.mapM (Value.convert element))
  | .type (.struct layout align members) => do
    return .composite (.struct layout align members) (← convertMembers members arguments)
  | _ => .error .badValue

/-- An array whose element type is that of its first element; the elements agree in the kind of
their numbers where they can. -/
def arrayOf (arguments : List Value) : Except Fault Value := do
  let elements ← match Value.commonKind? arguments with
    | some kind => arguments.mapM (Value.cast kind)
    | none => pure arguments
  match elements with
  | [] => throw .badValue
  | first :: _ => return .composite (.array first.type (some elements.length)) elements

/-- The value that a type makes of its arguments. -/
def apply (shape : Shape) (arguments : List Value) : Except Fault Value :=
  match shape, arguments with
  | .type goal, [] => .ok (.ofZero goal)
  | .array, arguments => arrayOf arguments
  | .type (.array element length), arguments => ofParts (.type (.array element length)) arguments
  | .type (.struct layout align members), arguments =>
    ofParts (.type (.struct layout align members)) arguments
  | shape, [argument] => ofOne shape argument
  | _, [] => .error .badValue
  | shape, arguments => ofParts shape arguments

end Shape

end ShaderLayout.Shader
