/-!
Field types and alignment rules. Every type is built from 32-bit components, so
that host and shader cannot disagree about widths. The two rule sets differ in
one type only: a vector of three floats fills sixteen bytes under Metal and
twelve under WGSL, and is aligned to sixteen under both.
-/

namespace ShaderLayout

inductive FieldType where
  | float | int | uint
  | float2 | float3 | float4
  | int2 | int4
  | uint2 | uint4
  | float3x3 | float4x4
  deriving DecidableEq, Repr

/-- The alignment rules of a shader language. -/
inductive LayoutRules where
  | metal | wgsl
  deriving DecidableEq, Repr

namespace LayoutRules

def all : List LayoutRules := [.metal, .wgsl]

def name : LayoutRules → String
  | .metal => "metal"
  | .wgsl => "wgsl"

def ofName? (name : String) : Option LayoutRules :=
  all.find? fun rules => rules.name == name

end LayoutRules

namespace FieldType

def all : List FieldType :=
  [.float, .int, .uint, .float2, .float3, .float4, .int2, .int4, .uint2, .uint4, .float3x3,
    .float4x4]

theorem mem_all (type : FieldType) : type ∈ all := by
  cases type <;> decide

/-- The name a schema uses. -/
def name : FieldType → String
  | .float => "float"
  | .int => "int"
  | .uint => "uint"
  | .float2 => "float2"
  | .float3 => "float3"
  | .float4 => "float4"
  | .int2 => "int2"
  | .int4 => "int4"
  | .uint2 => "uint2"
  | .uint4 => "uint4"
  | .float3x3 => "float3x3"
  | .float4x4 => "float4x4"

def ofName? (name : String) : Option FieldType :=
  all.find? fun type => type.name == name

theorem ofName?_name (type : FieldType) : ofName? type.name = some type := by
  cases type <;> decide

def isMatrix : FieldType → Bool
  | .float3x3 | .float4x4 => true
  | _ => false

/-- The columns of a matrix; a scalar or a vector is one column. -/
def columns : FieldType → Nat
  | .float3x3 => 3
  | .float4x4 => 4
  | _ => 1

/-- The components of one column. -/
def rows : FieldType → Nat
  | .float | .int | .uint => 1
  | .float2 | .int2 | .uint2 => 2
  | .float3 | .float3x3 => 3
  | .float4 | .int4 | .uint4 | .float4x4 => 4

def componentCount (type : FieldType) : Nat :=
  type.columns * type.rows

/-- The bytes a field takes under a rule set; matrix columns are padded to four components. -/
def size (rules : LayoutRules) : FieldType → Nat
  | .float | .int | .uint => 4
  | .float2 | .int2 | .uint2 => 8
  | .float3 => match rules with
    | .metal => 16
    | .wgsl => 12
  | .float4 | .int4 | .uint4 => 16
  | .float3x3 => 48
  | .float4x4 => 64

/-- The alignment of a field, the same under both rule sets. -/
def align : FieldType → Nat
  | .float | .int | .uint => 4
  | .float2 | .int2 | .uint2 => 8
  | .float3 | .float4 | .int4 | .uint4 | .float3x3 | .float4x4 => 16

theorem align_pos (type : FieldType) : 0 < type.align := by
  cases type <;> decide

/-- The bytes from one matrix column to the next. -/
def columnStride (type : FieldType) : Nat :=
  if type.isMatrix then 16 else 0

/-- Where each component lies within the field, column by column. -/
def componentOffsets (type : FieldType) : List Nat :=
  (List.range type.columns).flatMap fun column =>
    (List.range type.rows).map fun row => column * type.columnStride + row * 4

@[simp] theorem length_componentOffsets (type : FieldType) :
    type.componentOffsets.length = type.componentCount := by
  cases type <;> decide

/-- The bytes of the components alone, as in a vertex buffer. -/
def packedSize (type : FieldType) : Nat :=
  type.componentCount * 4

/-- The bytes of the host type. Host types are aligned to four, so generated structures carry
explicit padding; only the three-column matrix has padding of its own. -/
def hostSize : FieldType → Nat
  | .float3x3 => 48
  | type => type.packedSize

theorem hostSize_le_size (rules : LayoutRules) (type : FieldType) :
    type.hostSize ≤ type.size rules := by
  cases rules <;> cases type <;> decide

end FieldType

end ShaderLayout
