import ShaderLayout.Bindings.Member
import ShaderLayout.Name.Rendering
import ShaderLayout.Target.Basic

/-!
The declarations of the host bindings, before they are written out: an
enumeration of indices for each class, an alias for each scalar slot, and a
structure for each block and each vertex input.
-/

namespace ShaderLayout.Bindings

/-- A slot as a variant of the enumeration of its class. -/
structure Variant where
  name : String
  index : UInt32
  slot : String
  deriving DecidableEq, Repr

structure IndexEnum where
  bindingClass : BindingClass
  variants : List Variant
  deriving DecidableEq, Repr

/-- The structure of a block: its layout under the host rules, the variant of its slot, and its
members. -/
structure BlockStruct where
  layout : BlockLayout
  slot : String
  members : List Member
  deriving DecidableEq, Repr

structure VertexStruct where
  layout : VertexLayout
  slot : String
  members : List Member
  deriving DecidableEq, Repr

end Bindings

open Bindings

/-- All declarations of the host bindings of a contract. -/
structure Bindings where
  hostRules : LayoutRules
  enums : List IndexEnum
  /-- The alias of each scalar slot: the slot, the name of the alias and the type. -/
  aliases : List (String × String × FieldType)
  blocks : List BlockStruct
  vertices : List VertexStruct

namespace Bindings

/-- The enumeration of the slots of a class. -/
def indexEnum (contract : Contract) (bindingClass : BindingClass) : IndexEnum :=
  { bindingClass := bindingClass
    variants := (contract.slotsOf bindingClass).map fun slot =>
      ⟨Name.pascal slot.name, slot.index, slot.name⟩ }

def blockStruct (rules : LayoutRules) (block : Block) : Except MemberFault BlockStruct := do
  let layout := block.layout rules
  return ⟨layout, Name.pascal block.slot, ← blockMembers layout⟩

def vertexStruct (input : VertexInput) : Except MemberFault VertexStruct := do
  let layout := input.layout
  return ⟨layout, Name.pascal input.slot, ← vertexMembers layout⟩

/-- The bindings of a contract; they fail only if some fields overlap. -/
def ofContract (contract : Contract) : Except MemberFault Bindings := do
  return { hostRules := contract.hostRules
           enums := BindingClass.all.map (indexEnum contract)
           aliases := contract.scalarSlots.map fun (slot, type) =>
             (slot.name, Name.pascal slot.name, type)
           blocks := ← contract.blocks.mapM (blockStruct contract.hostRules)
           vertices := ← contract.vertexInputs.mapM vertexStruct }

/-- The type names that the bindings declare. -/
def typeNames (bindings : Bindings) : List String :=
  bindings.enums.map (·.bindingClass.enumName) ++ bindings.aliases.map (·.2.1) ++
    bindings.blocks.map (·.layout.name) ++ bindings.vertices.map (·.layout.name)

end Bindings

end ShaderLayout
