import ShaderLayout.Layout.Observed
import ShaderLayout.Shader.Syntax

/-!
The types of a module with all names in them settled. A vector is aligned to two
or four of its components, a matrix is an array of column vectors, and an array
places its elements at multiples of their alignment. Constants also have types
whose numbers have no type yet; an automatic conversion gives them one and never
changes one number type into another.
-/

namespace ShaderLayout.Shader

/-- What the components of a value are: scalars of a type, or numbers that have none yet. -/
inductive Kind where
  | typed (type : Scalar)
  | whole
  | real
  deriving DecidableEq, Repr

namespace Kind

def width : Kind → Nat
  | .typed type => type.width
  | .whole | .real => 8

/-- Whether numbers become such of another kind without being asked to. -/
def becomes : Kind → Kind → Bool
  | .whole, .typed type => type != .bool
  | .whole, .real => true
  | .real, .typed type => type.isFloat
  | _, _ => false

/-- The kind that numbers of two kinds have together. -/
def common? (left right : Kind) : Option Kind :=
  if left = right ∨ right.becomes left then some left
  else if left.becomes right then some right
  else none

/-- The usual type: 32 bits, signed for whole numbers. -/
def concrete : Kind → Kind
  | .typed type => .typed type
  | .whole => .typed .i32
  | .real => .typed .f32

end Kind

inductive DataType where
  | scalar (kind : Kind)
  | vector (size : Extent) (kind : Kind)
  | matrix (columns rows : Extent) (kind : Kind)
  | atomic (type : Scalar)
  /-- An array; without a length it takes as many elements as its buffer holds. -/
  | array (element : DataType) (length : Option Nat)
  /-- A structure with its layout, its alignment and the types of its members. -/
  | struct (layout : ObservedLayout) (align : Nat) (members : List DataType)
  deriving Repr

namespace DataType

/-- The alignment of a vector. -/
def vectorAlign (size : Extent) (width : Nat) : Nat :=
  match size with
  | .two => 2 * width
  | .three | .four => 4 * width

def align : DataType → Nat
  | .scalar kind => kind.width
  | .vector size kind => vectorAlign size kind.width
  | .matrix _ rows kind => vectorAlign rows kind.width
  | .atomic type => type.width
  | .array element _ => element.align
  | .struct _ align _ => align

/-- The bytes of a type; an array without a length counts as one element. -/
def size : DataType → Nat
  | .scalar kind => kind.width
  | .vector size kind => size.count * kind.width
  | .matrix columns rows kind => columns.count * vectorAlign rows kind.width
  | .atomic type => type.width
  | .array element length => length.getD 1 * alignUp element.size element.align
  | .struct layout _ _ => layout.size

/-- Whether two types are one; a structure is known by its name. -/
def same : DataType → DataType → Bool
  | .scalar kind, .scalar other => kind = other
  | .vector size kind, .vector other kind' => size = other && kind = kind'
  | .matrix columns rows kind, .matrix columns' rows' kind' =>
    columns = columns' && rows = rows' && kind = kind'
  | .atomic type, .atomic other => type = other
  | .array element length, .array other length' => element.same other && length = length'
  | .struct layout _ _, .struct other _ _ => layout.block == other.block
  | _, _ => false

/-- The kind of the numbers in a scalar, a vector or a matrix. -/
def kind? : DataType → Option Kind
  | .scalar kind | .vector _ kind | .matrix _ _ kind => some kind
  | _ => none

/-- The kind of the numbers in a type, or in the elements of an array. -/
def innerKind? : DataType → Option Kind
  | .array element _ => element.innerKind?
  | type => type.kind?

/-- The type with numbers of another kind. -/
def withKind (kind : Kind) : DataType → DataType
  | .scalar _ => .scalar kind
  | .vector size _ => .vector size kind
  | .matrix columns rows _ => .matrix columns rows kind
  | .array element length => .array (element.withKind kind) length
  | type => type

/-- The kind that the numbers of a type become where another type is asked for, if they do. -/
def goalKind? : DataType → DataType → Option Kind
  | .scalar kind, .scalar goal => if kind.becomes goal then some goal else none
  | .vector size kind, .vector size' goal =>
    if size = size' ∧ kind.becomes goal then some goal else none
  | .matrix columns rows kind, .matrix columns' rows' goal =>
    if columns = columns' ∧ rows = rows' ∧ kind.becomes goal then some goal else none
  | .array element length, .array goal length' =>
    if length = length' then element.goalKind? goal else none
  | _, _ => none

/-- The types of the parts of a value, by their number. -/
def part? (type : DataType) (index : Nat) : Option DataType :=
  match type with
  | .vector size kind => if index < size.count then some (.scalar kind) else none
  | .matrix columns rows kind => if index < columns.count then some (.vector rows kind) else none
  | .array element (some length) => if index < length then some element else none
  | .struct _ _ members => members[index]?
  | _ => none

end DataType

end ShaderLayout.Shader
