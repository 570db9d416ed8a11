import ShaderLayout.Shader.Constant

/-!
The functions of the language that constant expressions can use. They take
numbers of 32 bits, all of one type.
-/

namespace ShaderLayout.Shader

inductive Function where
  | abs | min | max | clamp
  | floor | ceil | round | trunc
  deriving DecidableEq, Repr

namespace Function

def all : List Function := [.abs, .min, .max, .clamp, .floor, .ceil, .round, .trunc]

def name : Function → String
  | .abs => "abs"
  | .min => "min"
  | .max => "max"
  | .clamp => "clamp"
  | .floor => "floor"
  | .ceil => "ceil"
  | .round => "round"
  | .trunc => "trunc"

def ofName? (name : String) : Option Function :=
  all.find? fun function => function.name == name

theorem ofName?_name (function : Function) : ofName? function.name = some function := by
  cases function <;> decide

/-- Whether the first number is the smaller one. -/
def isBelow (left right : Constant) : Bool :=
  left.compare? right == some .lt

/-- The whole number next to a float. -/
def toWhole (mode : Floating.Mode) : Constant → Except Fault Constant
  | .float (some .f32) value =>
    match value.toInt? mode with
    | some value => .ok (.float (some .f32) (.ofInt .single value))
    | none => .error .badValue
  | _ => .error .badValue

/-- The number without its sign; the least integer keeps it. -/
def absolute (value : Constant) : Except Fault Constant :=
  match value with
  | .integer _ number => if number < 0 then value.negate else .ok value
  | .float _ number =>
    if number.compare? (.finite false 0 0) = some .lt then value.negate else .ok value
  | .boolean _ => .error .badValue

/-- Whether a function can take a number of a kind. -/
def takes (kind : Kind) : Bool :=
  [Kind.typed .i32, .typed .u32, .typed .f32].contains kind

/-- The value of a function for scalars. -/
def onScalars (function : Function) (arguments : List Constant) : Except Fault Constant :=
  match arguments with
  | [] => .error .badValue
  | first :: others =>
    if takes first.kind ∧ others.all fun other => other.kind = first.kind then
      match function, others with
      | .abs, [] => absolute first
      | .min, [other] => .ok (if isBelow other first then other else first)
      | .max, [other] => .ok (if isBelow first other then other else first)
      | .clamp, [low, high] =>
        if isBelow high low then .error .badValue
        else .ok (if isBelow first low then low else if isBelow high first then high else first)
      | .floor, [] => toWhole .down first
      | .ceil, [] => toWhole .up first
      | .round, [] => toWhole .nearest first
      | .trunc, [] => toWhole .toZero first
      | _, _ => .error .badValue
    else .error .badValue

end Function

end ShaderLayout.Shader
