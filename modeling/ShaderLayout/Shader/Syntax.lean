import ShaderLayout.Shader.Floating

/-!
The syntax of shader modules, as far as it describes data: structures, aliases
and constants, the types that can stand in memory, and constant expressions.
-/

namespace ShaderLayout.Shader

inductive Scalar where
  | bool | i32 | u32 | i64 | u64 | f32 | f64
  deriving DecidableEq, Repr

namespace Scalar

def all : List Scalar := [.bool, .i32, .u32, .i64, .u64, .f32, .f64]

def name : Scalar → String
  | .bool => "bool"
  | .i32 => "i32"
  | .u32 => "u32"
  | .i64 => "i64"
  | .u64 => "u64"
  | .f32 => "f32"
  | .f64 => "f64"

def ofName? (name : String) : Option Scalar :=
  all.find? fun scalar => scalar.name == name

/-- The bytes of a scalar. -/
def width : Scalar → Nat
  | .bool => 1
  | .i32 | .u32 | .f32 => 4
  | .i64 | .u64 | .f64 => 8

def isFloat : Scalar → Bool
  | .f32 | .f64 => true
  | _ => false

end Scalar

/-- The number of components of a vector, or of columns or rows of a matrix. -/
inductive Extent where
  | two | three | four
  deriving DecidableEq, Repr

namespace Extent

def all : List Extent := [.two, .three, .four]

def count : Extent → Nat
  | .two => 2
  | .three => 3
  | .four => 4

end Extent

/-- Literals; a number without a suffix has no type of its own. -/
inductive Literal where
  | integer (type : Option Scalar) (value : Nat)
  | float (type : Option Scalar) (value : Floating)
  | boolean (value : Bool)
  deriving DecidableEq, Repr

inductive UnaryOperator where
  | negate | not | complement
  deriving DecidableEq, Repr

inductive Operator where
  | multiply | divide | remainder
  | add | subtract
  | shiftLeft | shiftRight
  | less | lessEqual | greater | greaterEqual
  | equal | unequal
  | bitAnd | bitXor | bitOr
  | and | or
  deriving DecidableEq, Repr

namespace Operator

/-- The operators that go first are those of the lowest level. -/
def level : Operator → Nat
  | .multiply | .divide | .remainder => 0
  | .add | .subtract => 1
  | .shiftLeft | .shiftRight => 2
  | .less | .lessEqual | .greater | .greaterEqual => 3
  | .equal | .unequal => 4
  | .bitAnd => 5
  | .bitXor => 6
  | .bitOr => 7
  | .and => 8
  | .or => 9

/-- The number of levels. -/
def levels : Nat := 10

def isShift : Operator → Bool
  | .shiftLeft | .shiftRight => true
  | _ => false

/-- Whether the operator compares its operands. -/
def isRelation : Operator → Bool
  | .less | .lessEqual | .greater | .greaterEqual | .equal | .unequal => true
  | _ => false

end Operator

mutual

inductive Expr where
  | literal (value : Literal)
  | name (text : String)
  | unary (operator : UnaryOperator) (operand : Expr)
  | binary (operator : Operator) (left right : Expr)
  /-- A part of a value by its name. -/
  | member (base : Expr) (name : String)
  /-- A part of a value by its number. -/
  | element (base index : Expr)
  | call (head : Head) (arguments : Arguments)

inductive Arguments where
  | none
  | more (first : Expr) (rest : Arguments)

/-- What stands in front of arguments. A type without its component takes it from the arguments. -/
inductive Head where
  | type (type : TypeExpr)
  | vector (size : Extent)
  | matrix (columns rows : Extent)
  | array
  | named (name : String)

inductive TypeExpr where
  | scalar (type : Scalar)
  | vector (size : Extent) (component : Scalar)
  | matrix (columns rows : Extent) (component : Scalar)
  | atomic (type : Scalar)
  | array (element : TypeExpr) (length : Expr)
  /-- An array that takes as many elements as its buffer holds. -/
  | unsized (element : TypeExpr)
  | named (name : String)

end

deriving instance DecidableEq, Repr for Expr, Arguments, Head, TypeExpr

/-- How a member is passed between stages. -/
inductive Passing where
  | location (index : Expr)
  | builtin (name : String)
  deriving DecidableEq, Repr

structure Member where
  name : String
  type : TypeExpr
  size : Option Expr
  align : Option Expr
  passing : Option Passing
  deriving DecidableEq, Repr

inductive Declaration where
  | alias (name : String) (type : TypeExpr)
  | constant (name : String) (type : Option TypeExpr) (value : Expr)
  | struct (name : String) (members : List Member)
  deriving DecidableEq, Repr

def Declaration.name : Declaration → String
  | .alias name _ => name
  | .constant name _ _ => name
  | .struct name _ => name

end ShaderLayout.Shader
