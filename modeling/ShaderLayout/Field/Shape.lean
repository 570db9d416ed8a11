import ShaderLayout.Field.Value

/-!
Values by their shape, as host code passes them: a signed number as a number, a
vector by its components, a matrix by its columns. Floats stay bit patterns.
Each shape is one list of words, and each value has one shape.
-/

namespace ShaderLayout

inductive ShapedValue where
  | float (bits : UInt32)
  | int (number : Int32)
  | uint (number : UInt32)
  | float2 (components : Vector UInt32 2)
  | float3 (components : Vector UInt32 3)
  | float4 (components : Vector UInt32 4)
  | int2 (components : Vector Int32 2)
  | int4 (components : Vector Int32 4)
  | uint2 (components : Vector UInt32 2)
  | uint4 (components : Vector UInt32 4)
  | float3x3 (columns : Vector (Vector UInt32 3) 3)
  | float4x4 (columns : Vector (Vector UInt32 4) 4)
  deriving DecidableEq, Repr

namespace ShapedValue

def type : ShapedValue → FieldType
  | .float _ => .float
  | .int _ => .int
  | .uint _ => .uint
  | .float2 _ => .float2
  | .float3 _ => .float3
  | .float4 _ => .float4
  | .int2 _ => .int2
  | .int4 _ => .int4
  | .uint2 _ => .uint2
  | .uint4 _ => .uint4
  | .float3x3 _ => .float3x3
  | .float4x4 _ => .float4x4

/-- The words of all components, those of a matrix column by column. -/
def words : ShapedValue → List UInt32
  | .float bits => [bits]
  | .int number => [number.toUInt32]
  | .uint number => [number]
  | .float2 components => components.toList
  | .float3 components => components.toList
  | .float4 components => components.toList
  | .int2 components => components.toList.map Int32.toUInt32
  | .int4 components => components.toList.map Int32.toUInt32
  | .uint2 components => components.toList
  | .uint4 components => components.toList
  | .float3x3 columns => columns.toList.flatMap Vector.toList
  | .float4x4 columns => columns.toList.flatMap Vector.toList

theorem length_words (shaped : ShapedValue) :
    shaped.words.length = shaped.type.componentCount := by
  cases shaped <;>
    simp [words, type, FieldType.componentCount, FieldType.columns, FieldType.rows,
      List.length_flatMap, List.map_const']

/-- The value of the shape. -/
def value (shaped : ShapedValue) : FieldValue :=
  { type := shaped.type
    words := shaped.words
    length_words := shaped.length_words }

end ShapedValue

/-- The shape of the value. -/
def FieldValue.shaped (value : FieldValue) : ShapedValue :=
  let word (place : Nat) : UInt32 := value.words.getD place 0
  let number (place : Nat) : Int32 := (word place).toInt32
  match value.type with
  | .float => .float (word 0)
  | .int => .int (number 0)
  | .uint => .uint (word 0)
  | .float2 => .float2 #v[word 0, word 1]
  | .float3 => .float3 #v[word 0, word 1, word 2]
  | .float4 => .float4 #v[word 0, word 1, word 2, word 3]
  | .int2 => .int2 #v[number 0, number 1]
  | .int4 => .int4 #v[number 0, number 1, number 2, number 3]
  | .uint2 => .uint2 #v[word 0, word 1]
  | .uint4 => .uint4 #v[word 0, word 1, word 2, word 3]
  | .float3x3 => .float3x3 (.ofFn fun column => .ofFn fun row => word (column * 3 + row))
  | .float4x4 => .float4x4 (.ofFn fun column => .ofFn fun row => word (column * 4 + row))

/-- A shape keeps every word of its value. -/
theorem FieldValue.value_shaped (value : FieldValue) : value.shaped.value = value := by
  have hwords : value.words =
      (List.range value.type.componentCount).map fun place => value.words.getD place 0 := by
    apply List.ext_getElem
    · simp [value.length_words]
    · intro place hplace _
      simp [hplace]
  obtain ⟨type, words, hlength⟩ := value
  simp only [ShapedValue.value, FieldValue.mk.injEq]
  refine ⟨?_, Eq.trans ?_ hwords.symm⟩
  · cases type <;> rfl
  · cases type <;> rfl

/-- A value keeps its shape. -/
theorem ShapedValue.shaped_value (shaped : ShapedValue) : shaped.value.shaped = shaped := by
  cases shaped with
  | float _ => rfl
  | int _ => rfl
  | uint _ => rfl
  | float2 components | int2 components | uint2 components =>
      match components with
      | ⟨⟨[_, _]⟩, _⟩ => rfl
  | float3 components =>
      match components with
      | ⟨⟨[_, _, _]⟩, _⟩ => rfl
  | float4 components | int4 components | uint4 components =>
      match components with
      | ⟨⟨[_, _, _, _]⟩, _⟩ => rfl
  | float3x3 columns =>
      match columns with
      | ⟨⟨[⟨⟨[_, _, _]⟩, _⟩, ⟨⟨[_, _, _]⟩, _⟩, ⟨⟨[_, _, _]⟩, _⟩]⟩, _⟩ => rfl
  | float4x4 columns =>
      match columns with
      | ⟨⟨[⟨⟨[_, _, _, _]⟩, _⟩, ⟨⟨[_, _, _, _]⟩, _⟩, ⟨⟨[_, _, _, _]⟩, _⟩,
          ⟨⟨[_, _, _, _]⟩, _⟩]⟩, _⟩ => rfl

end ShaderLayout
