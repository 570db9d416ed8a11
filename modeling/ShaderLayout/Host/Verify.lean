import ShaderLayout.Contract.Check
import ShaderLayout.Host.Tables

/-!
Verification of compiled host tables against a contract, at load time. It tells
whether the program and the schema come from one version.
-/

namespace ShaderLayout

/-- How errors name the side of the host. -/
def hostSideName : String := "host (rustc)"

/-- Compares a compiled block with the block of its name: the layout, then the slot. -/
def HostBlock.verify (host : HostBlock) (contract : Contract) : Except LayoutError Unit := do
  let name := host.observed.block
  match contract.block? name with
  | none => throw (.mismatch hostSideName (.missingBlock name))
  | some block =>
    ((block.layout contract.hostRules).compare host.observed).mapError (.mismatch hostSideName)
    match contract.slot? .buffer block.slot with
    | none => throw (.unknownSlot block.name block.slot)
    | some slot =>
      if slot.index ≠ host.index ∨ slot.name ≠ host.slot then
        throw (.mismatch hostSideName
          (.bindingIndex .buffer s!"{block.slot} ({name})" slot.index host.index))

namespace HostVertex

/-- Compares attributes in order by location and offset, up to the end of the shorter list. -/
def compareAttributes (name : String) :
    List AttributeLayout → List AttributeLayout → Except LayoutMismatch Unit
  | expected :: expecteds, found :: founds =>
    if expected.offset ≠ found.offset ∨ expected.location ≠ found.location then
      .error (.offset name expected.name expected.offset found.offset)
    else compareAttributes name expecteds founds
  | _, _ => .ok ()

/-- Compares a vertex layout: the stride, then the number of attributes, then each attribute. -/
def compare (host : HostVertex) (layout : VertexLayout) : Except LayoutMismatch Unit := do
  if layout.stride ≠ host.stride ∨ host.size ≠ host.stride then
    throw (.size host.name layout.stride host.size)
  if layout.attributes.length ≠ host.attributes.length then
    throw (.fieldCount host.name layout.attributes.length host.attributes.length)
  compareAttributes host.name layout.attributes host.attributes

/-- Compares a compiled vertex with the vertex input of its name. -/
def verify (host : HostVertex) (contract : Contract) : Except LayoutError Unit :=
  match contract.vertexInput? host.name with
  | none => .error (.mismatch hostSideName (.missingBlock host.name))
  | some input => (host.compare input.layout).mapError (.mismatch hostSideName)

end HostVertex

namespace HostTables

/-- Compares the indices of all classes. -/
def verifyIndices (tables : HostTables) (contract : Contract) : Except LayoutError Unit :=
  tables.indices.forM fun (bindingClass, declared) =>
    contract.checkBindings bindingClass declared hostSideName

def verifyBlocks (tables : HostTables) (contract : Contract) : Except LayoutError Unit :=
  tables.blocks.forM fun block => block.verify contract

def verifyVertices (tables : HostTables) (contract : Contract) : Except LayoutError Unit :=
  tables.vertices.forM fun vertex => vertex.verify contract

/-- Compares everything: indices, blocks and vertices. -/
def verify (tables : HostTables) (contract : Contract) : Except LayoutError Unit := do
  tables.verifyIndices contract
  tables.verifyBlocks contract
  tables.verifyVertices contract

end HostTables

end ShaderLayout
