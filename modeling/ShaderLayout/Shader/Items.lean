import ShaderLayout.Layout.Block
import ShaderLayout.Layout.Vertex
import ShaderLayout.Name.Rendering
import ShaderLayout.Shader.Syntax
import ShaderLayout.Target.Basic

/-!
The WGSL module of a contract, before it is written out: a constant for each
slot, an alias for each scalar slot, and a structure for each block and each
vertex input. How slots map to bind groups is left to the program, so nothing is
bound here.
-/

namespace ShaderLayout.Shader

/-- A member of a generated structure, with a remark behind it or a location in front. -/
structure ItemMember where
  location : Option Nat
  name : String
  type : FieldType
  /-- The offset to remark on. -/
  offset : Option Nat
  deriving DecidableEq, Repr

inductive Item where
  | constant (name : String) (value : UInt32)
  | alias (name : String) (type : FieldType)
  | struct (remark name : String) (members : List ItemMember)
  deriving DecidableEq, Repr

/-- The type of a field in a shader module. -/
def fieldTypeExpr : FieldType → TypeExpr
  | .float => .scalar .f32
  | .int => .scalar .i32
  | .uint => .scalar .u32
  | .float2 => .vector .two .f32
  | .float3 => .vector .three .f32
  | .float4 => .vector .four .f32
  | .int2 => .vector .two .i32
  | .int4 => .vector .four .i32
  | .uint2 => .vector .two .u32
  | .uint4 => .vector .four .u32
  | .float3x3 => .matrix .three .three .f32
  | .float4x4 => .matrix .four .four .f32

namespace ItemMember

/-- The member as a reader of the module sees it. -/
def declaration (member : ItemMember) : Member :=
  { name := member.name
    type := fieldTypeExpr member.type
    size := none
    align := none
    passing := member.location.map fun index => .location (.literal (.integer none index)) }

end ItemMember

namespace Item

/-- The item as a reader of the module sees it. -/
def declaration : Item → Declaration
  | .constant name value =>
    .constant name (some (.scalar .u32)) (.literal (.integer (some .u32) value.toNat))
  | .alias name type => .alias name (fieldTypeExpr type)
  | .struct _ name members => .struct name (members.map ItemMember.declaration)

/-- The structure for a block. -/
def ofBlock (layout : BlockLayout) : Item :=
  .struct s!"{layout.size} bytes" layout.name
    (layout.fields.map fun field => ⟨none, field.name, field.type, some field.offset⟩)

/-- The structure for a vertex. -/
def ofVertex (layout : VertexLayout) : Item :=
  .struct s!"stride {layout.stride}" layout.name
    (layout.attributes.map fun attr => ⟨some attr.location, attr.name, attr.format, none⟩)

end Item

/-- The constants for the slots of a class. -/
def classConstants (contract : Contract) (bindingClass : BindingClass) : List Item :=
  (contract.slotsOf bindingClass).map fun slot =>
    .constant (Name.shouty bindingClass.name ++ "_" ++ Name.shouty slot.name) slot.index

def scalarAliases (contract : Contract) : List Item :=
  contract.scalarSlots.map fun (slot, type) => .alias (Name.pascal slot.name) type

def blockStructs (contract : Contract) : List Item :=
  contract.blocks.map fun block => .ofBlock (block.layout .wgsl)

def vertexStructs (contract : Contract) : List Item :=
  contract.vertexInputs.map fun input => .ofVertex input.layout

/-- All items of the module. -/
def items (contract : Contract) : List Item :=
  BindingClass.all.flatMap (classConstants contract) ++ scalarAliases contract ++
    blockStructs contract ++ vertexStructs contract

end ShaderLayout.Shader
