import ShaderLayout.Bindings.Declaration
import ShaderLayout.Layout.Observed

/-!
What compiled host bindings know about themselves: the indices of each class,
and for each structure its size and the offsets of its fields. The host compiler
places members one behind the other, since none needs an alignment above four.
-/

namespace ShaderLayout

namespace Bindings

/-- The bytes of members one behind the other. -/
def totalSize (members : List Member) : Nat :=
  members.foldr (fun member size => member.size + size) 0

/-- The names and offsets of the fields among members that start at `cursor`. -/
def fieldOffsets : Nat → List Member → List ObservedField
  | _, [] => []
  | cursor, .field name type :: members =>
    ⟨name, cursor⟩ :: fieldOffsets (cursor + type.hostSize) members
  | cursor, .padding _ words :: members => fieldOffsets (cursor + 4 * words) members

/-- The slot that a variant of the buffer indices stands for, with its index. -/
def bufferVariant? (bindings : Bindings) (name : String) : Option Variant := do
  let enum ← bindings.enums.find? fun enum => enum.bindingClass = .buffer
  enum.variants.find? fun variant => variant.name == name

end Bindings

/-- A compiled structure for a block. -/
structure HostBlock where
  observed : ObservedLayout
  slot : String
  index : UInt32
  members : List Bindings.Member

/-- A compiled structure for a vertex. -/
structure HostVertex where
  name : String
  slot : String
  index : UInt32
  stride : Nat
  /-- The bytes the structure really takes. -/
  size : Nat
  attributes : List AttributeLayout
  members : List Bindings.Member

/-- All compiled tables. -/
structure HostTables where
  indices : List (BindingClass × List (String × UInt32))
  blocks : List HostBlock
  vertices : List HostVertex

namespace Bindings

def hostBlock? (bindings : Bindings) (struct : BlockStruct) : Option HostBlock := do
  let variant ← bindings.bufferVariant? struct.slot
  return {
    observed := ⟨struct.layout.name, totalSize struct.members, fieldOffsets 0 struct.members⟩
    slot := variant.slot
    index := variant.index
    members := struct.members }

def hostVertex? (bindings : Bindings) (struct : VertexStruct) : Option HostVertex := do
  let variant ← bindings.bufferVariant? struct.slot
  return {
    name := struct.layout.name
    slot := variant.slot
    index := variant.index
    stride := struct.layout.stride
    size := totalSize struct.members
    attributes := struct.layout.attributes
    members := struct.members }

/-- The tables of compiled bindings, unless a structure names a slot that is not there. -/
def tables? (bindings : Bindings) : Option HostTables := do
  return {
    indices := bindings.enums.map fun enum =>
      (enum.bindingClass, enum.variants.map fun variant => (variant.slot, variant.index))
    blocks := ← bindings.blocks.mapM bindings.hostBlock?
    vertices := ← bindings.vertices.mapM bindings.hostVertex? }

end Bindings

/-- The tables of the bindings of a contract. -/
def Contract.hostTables? (contract : Contract) : Option HostTables :=
  match Bindings.ofContract contract with
  | .ok bindings => bindings.tables?
  | .error _ => none

end ShaderLayout
