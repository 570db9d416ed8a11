import ShaderLayout.Shader.Construction

/-!
Evaluation of expressions and types in a scope, which says what names stand for.
A name that the scope does not know may still be a function of the language.
-/

namespace ShaderLayout.Shader

/-- What a name stands for. -/
inductive Entity where
  | constant (value : Value)
  | type (type : DataType)
  deriving Repr

/-- The names that are known, the latest first. -/
abbrev Scope := List (String × Entity)

namespace Scope

def constant? (scope : Scope) (name : String) : Except Fault Value :=
  match scope.lookup name with
  | some (.constant value) => .ok value
  | _ => .error (.unknownValue name)

def type? (scope : Scope) (name : String) : Except Fault DataType :=
  match scope.lookup name with
  | some (.type type) => .ok type
  | _ => .error (.unknownType name)

/-- The value of a type or a function applied to arguments by its name. -/
def call (scope : Scope) (name : String) (arguments : List Value) : Except Fault Value :=
  match scope.lookup name with
  | some (.type type) => Shape.apply (.type type) arguments
  | some (.constant _) => .error (.unknownValue name)
  | none =>
    match Function.ofName? name with
    | some function => do Value.apply function (← arguments.mapM Value.concretize)
    | none => .error (.unknownValue name)

end Scope

mutual

/-- The value of an expression. -/
def Expr.eval (scope : Scope) : Expr → Except Fault Value
  | .literal value => .ok (.scalar (.ofLiteral value))
  | .name text => scope.constant? text
  | .unary operator operand => do Value.unary operator (← operand.eval scope)
  | .binary operator left right => do
    let left ← left.eval scope
    let right ← right.eval scope
    Value.binary operator left right
  | .member base name => do (← base.eval scope).member name
  | .element base index => do
    let base ← base.eval scope
    base.part (← (← index.eval scope).count)
  | .call head arguments => do
    let arguments ← arguments.eval scope
    head.apply scope arguments

def Arguments.eval (scope : Scope) : Arguments → Except Fault (List Value)
  | .none => .ok []
  | .more first rest => do
    let first ← first.eval scope
    return first :: (← rest.eval scope)

/-- The value that a head makes of its arguments. -/
def Head.apply (scope : Scope) (arguments : List Value) : Head → Except Fault Value
  | .type type => do Shape.apply (.type (← type.settle scope)) arguments
  | .vector size => Shape.apply (.vector size) arguments
  | .matrix columns rows => Shape.apply (.matrix columns rows) arguments
  | .array => Shape.apply .array arguments
  | .named name => scope.call name arguments

/-- A type with all names in it settled. A matrix has floats, and an array at least one element. -/
def TypeExpr.settle (scope : Scope) : TypeExpr → Except Fault DataType
  | .scalar type => .ok (.scalar (.typed type))
  | .vector size component => .ok (.vector size (.typed component))
  | .matrix columns rows component =>
    if component.isFloat then .ok (.matrix columns rows (.typed component))
    else .error .badValue
  | .atomic type => .ok (.atomic type)
  | .array element length => do
    let element ← element.settle scope
    let count ← (← length.eval scope).count
    if count = 0 then throw .badValue
    return .array element (some count)
  | .unsized element => do return .array (← element.settle scope) none
  | .named name => scope.type? name

end

/-- The value of an expression as a count. -/
def Expr.count (scope : Scope) (expr : Expr) : Except Fault Nat := do
  (← expr.eval scope).count

/-! ### Names that are used -/

mutual

/-- The names that an expression uses. -/
def Expr.names : Expr → List String
  | .literal _ => []
  | .name text => [text]
  | .unary _ operand => operand.names
  | .binary _ left right => left.names ++ right.names
  | .member base _ => base.names
  | .element base index => base.names ++ index.names
  | .call head arguments => head.names ++ arguments.names

def Arguments.names : Arguments → List String
  | .none => []
  | .more first rest => first.names ++ rest.names

def Head.names : Head → List String
  | .type type => type.names
  | .named name => [name]
  | _ => []

/-- The names that a type uses. -/
def TypeExpr.names : TypeExpr → List String
  | .array element length => element.names ++ length.names
  | .unsized element => element.names
  | .named name => [name]
  | _ => []

end

/-- The names that an expression uses, if there is one. -/
def namesOf? : Option Expr → List String
  | some expr => expr.names
  | none => []

/-- The names that the passing of a member uses. -/
def Passing.names : Passing → List String
  | .location index => index.names
  | .builtin _ => []

def Member.names (member : Member) : List String :=
  member.type.names ++ namesOf? member.size ++ namesOf? member.align ++
    (member.passing.map Passing.names).getD []

/-- The names that a declaration uses. -/
def Declaration.names : Declaration → List String
  | .alias _ type => type.names
  | .constant _ type value => (type.map TypeExpr.names).getD [] ++ value.names
  | .struct _ members => members.flatMap Member.names

end ShaderLayout.Shader
