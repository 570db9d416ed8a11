import ShaderLayout.Layout.Block
import ShaderLayout.Layout.Vertex
import ShaderLayout.Name.Rendering
import ShaderLayout.Target.Basic

/-!
The declarations of the MSL header, before they are written out. The header is
read by shaders and by C code of the host, so blocks use types that both know;
vertex structures are for shaders alone.
-/

namespace ShaderLayout.Header

/-- A structure that holds a block, with the layout it is asserted to have. -/
structure BlockStruct where
  /-- The slot of the block, as an enumerator. -/
  slot : String
  layout : BlockLayout

/-- A member of a vertex structure: its type, its name and the enumerator of its location. -/
structure VertexMember where
  format : FieldType
  name : String
  location : String

inductive Declaration where
  | enumeration (name : String) (enumerators : List (String × Nat))
  | alias (type : FieldType) (name : String)
  | block (struct : BlockStruct)
  | vertex (name : String) (members : List VertexMember)

namespace Declaration

/-- The enumeration, unless it is empty: C does not know empty enumerations. -/
def enumerationOf (name : String) (enumerators : List (String × Nat)) : List Declaration :=
  if enumerators.isEmpty then [] else [.enumeration name enumerators]

/-- The names that a declaration brings into the scope of the file. -/
def names : Declaration → List String
  | .enumeration name enumerators => name :: enumerators.map (·.1)
  | .alias _ name => [name]
  | .block struct => [struct.layout.name]
  | .vertex name _ => [name]

/-- The names of the members of the declared structure. -/
def memberNames : Declaration → List String
  | .block struct => struct.layout.fields.map (Name.camel ·.name)
  | .vertex _ members => members.map (·.name)
  | _ => []

end Declaration

/-- The indices of the slots of a class. -/
def indexEnumeration (contract : Contract) (bindingClass : BindingClass) : List Declaration :=
  Declaration.enumerationOf bindingClass.enumName
    ((contract.slotsOf bindingClass).map fun slot =>
      (bindingClass.enumName ++ Name.pascal slot.name, slot.index.toNat))

/-- The enumerator of the location of an attribute. -/
def locationName (vertex attr : String) : String :=
  vertex ++ "Attribute" ++ Name.pascal attr

/-- The declarations of a vertex input: locations, offsets with the stride, and the structure. -/
def vertexDeclarations (layout : VertexLayout) : List Declaration :=
  Declaration.enumerationOf (layout.name ++ "Attribute")
    (layout.attributes.map fun attr => (locationName layout.name attr.name, attr.location)) ++
  Declaration.enumerationOf (layout.name ++ "Layout")
    (layout.attributes.map (fun attr =>
      (layout.name ++ "Layout" ++ Name.pascal attr.name ++ "Offset", attr.offset)) ++
      [(layout.name ++ "LayoutStride", layout.stride)]) ++
  [.vertex layout.name (layout.attributes.map fun attr =>
    ⟨attr.format, Name.camel attr.name, locationName layout.name attr.name⟩)]

/-- All declarations of the header. -/
def declarations (contract : Contract) : List Declaration :=
  BindingClass.all.flatMap (indexEnumeration contract) ++
    contract.scalarSlots.map (fun (slot, type) => .alias type (Name.pascal slot.name)) ++
    contract.blocks.map (fun block =>
      .block ⟨BindingClass.buffer.enumName ++ Name.pascal block.slot, block.layout .metal⟩) ++
    contract.vertexInputs.flatMap fun input => vertexDeclarations input.layout

end ShaderLayout.Header
