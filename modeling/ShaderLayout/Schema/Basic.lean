import ShaderLayout.Contract.Basic

/-!
Schemas. A schema is what a user writes down; checked, it becomes a contract.
Slots are declared class by class, and a slot without an index of its own takes
its place in the declaration as index.
-/

namespace ShaderLayout

/-- A slot as declared. -/
structure SlotEntry where
  name : String
  index : Option UInt32
  /-- The type of the single value in the slot, if it holds just one. -/
  scalar : Option FieldType
  isVertex : Bool
  deriving DecidableEq, Repr

structure Schema where
  name : String
  hostRules : LayoutRules
  buffers : List SlotEntry
  textures : List SlotEntry
  samplers : List SlotEntry
  blocks : List Block
  vertexInputs : List VertexInput
  deriving DecidableEq, Repr

/-- A slot of which only the name is given. -/
def SlotEntry.ofName (name : String) : SlotEntry :=
  { name := name, index := none, scalar := none, isVertex := false }

namespace Schema

/-- The slots of a class as declared. -/
def entries (schema : Schema) : BindingClass → List SlotEntry
  | .buffer => schema.buffers
  | .texture => schema.textures
  | .sampler => schema.samplers

end Schema

end ShaderLayout
