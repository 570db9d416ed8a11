import ShaderLayout.Contract.Basic

/-!
Vertex layouts. Attributes are packed without gaps and numbered in order; the
alignment rules of blocks do not apply to them.
-/

namespace ShaderLayout

structure AttributeLayout where
  name : String
  format : FieldType
  location : Nat
  offset : Nat
  deriving DecidableEq, Repr

structure VertexLayout where
  name : String
  attributes : List AttributeLayout
  /-- The bytes of the attributes alone. -/
  packedSize : Nat
  /-- The bytes from one vertex to the next. -/
  stride : Nat
  deriving DecidableEq, Repr

namespace AttributeLayout

/-- Packs attributes, the first at `location` and `offset`. -/
def packAll : Nat → Nat → List Attribute → List AttributeLayout
  | _, _, [] => []
  | location, offset, attr :: attrs =>
    ⟨attr.name, attr.format, location, offset⟩ ::
      packAll (location + 1) (offset + attr.format.packedSize) attrs

end AttributeLayout

/-- The bytes of the attributes alone. -/
def VertexInput.packedSize (input : VertexInput) : Nat :=
  input.attributes.foldr (fun attr size => attr.format.packedSize + size) 0

def VertexInput.layout (input : VertexInput) : VertexLayout :=
  { name := input.name
    attributes := AttributeLayout.packAll 0 0 input.attributes
    packedSize := input.packedSize
    stride := input.stride.getD input.packedSize }

end ShaderLayout
