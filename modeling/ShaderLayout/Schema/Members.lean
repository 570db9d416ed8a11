import ShaderLayout.Layout.Vertex
import ShaderLayout.Schema.Slots

/-!
Checking of blocks and vertex inputs against the slots of a contract. A block
lives in a buffer of blocks, a vertex input in a buffer of vertices, and within
either no two members may share a name or a rendering of their names.
-/

namespace ShaderLayout

/-- The buffer slot that `owner` names. -/
def bufferSlot (slots : List Slot) (owner name : String) : Except LayoutError Slot :=
  match slots.find? fun slot => slot.bindingClass = .buffer && slot.name == name with
  | some slot => .ok slot
  | none => .error (.unknownSlot owner name)

namespace Block

/-- Checks fields one after the other against those before them. -/
def checkFields (owner : String) : List Field → List Field → Except LayoutError Unit
  | _, [] => .ok ()
  | earlier, field :: fields => do
    checkName field.name
    if earlier.any fun other => other.name == field.name then
      throw (.duplicateName .field s!"{owner}.{field.name}")
    if earlier.any fun other => Name.camel other.name == Name.camel field.name then
      throw (.duplicateName .field s!"{owner}.{Name.camel field.name}")
    checkFields owner (earlier ++ [field]) fields

def check (slots : List Slot) (block : Block) : Except LayoutError Unit := do
  checkName block.name
  let slot ← bufferSlot slots block.name block.slot
  if slot.kind ≠ .block then throw (.slotKindMismatch block.name block.slot .notBlockSlot)
  if block.fields.isEmpty then throw (.emptyBlock block.name)
  checkFields block.name [] block.fields

end Block

namespace VertexInput

/-- Checks attributes one after the other against those before them. -/
def checkAttributes (owner : String) : List Attribute → List Attribute → Except LayoutError Unit
  | _, [] => .ok ()
  | earlier, attr :: attrs => do
    checkName attr.name
    if earlier.any fun other => other.name == attr.name then
      throw (.invalidVertexLayout owner (.duplicateAttribute attr.name))
    if earlier.any fun other => Name.camel other.name == Name.camel attr.name then
      throw (.duplicateName .attribute s!"{owner}.{Name.camel attr.name}")
    if earlier.any fun other => Name.pascal other.name == Name.pascal attr.name then
      throw (.duplicateName .attribute s!"{owner}Attribute{Name.pascal attr.name}")
    if attr.format.isMatrix then
      throw (.invalidVertexLayout owner (.matrixAttribute attr.name))
    checkAttributes owner (earlier ++ [attr]) attrs

/-- A stride has to hold the attributes and to be a multiple of four. -/
def checkStride (input : VertexInput) : Except LayoutError Unit :=
  match input.stride with
  | none => .ok ()
  | some stride =>
    if stride < input.packedSize then
      .error (.invalidVertexLayout input.name (.shortStride stride input.packedSize))
    else if stride % 4 ≠ 0 then
      .error (.invalidVertexLayout input.name (.unalignedStride stride))
    else .ok ()

def check (slots : List Slot) (input : VertexInput) : Except LayoutError Unit := do
  checkName input.name
  let slot ← bufferSlot slots input.name input.slot
  if slot.kind ≠ .vertex then throw (.slotKindMismatch input.name input.slot .notVertexSlot)
  if input.attributes.isEmpty then throw (.invalidVertexLayout input.name .noAttributes)
  checkAttributes input.name [] input.attributes
  input.checkStride

end VertexInput

end ShaderLayout
