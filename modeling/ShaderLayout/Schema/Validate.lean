import ShaderLayout.Schema.Members

/-!
Validation of schemas. Generated code declares types: an enumeration of indices
for each class, the host types, an alias for each scalar slot, a structure for
each block, and three types for each vertex input. No two of them may share a
name. A schema that passes all checks becomes a contract, with its slots in
order and all else as written.
-/

namespace ShaderLayout

/-- The type names that generated code uses before any block is declared. -/
def takenTypeNames (slots : List Slot) : List String :=
  BindingClass.all.map (fun bindingClass => Name.pascal bindingClass.name ++ "Index") ++
    FieldType.all.map (Name.pascal ·.name) ++
    slots.filterMap fun slot =>
      match slot.kind with
      | .scalar _ => some (Name.pascal slot.name)
      | _ => none

/-- Takes a type name, which must be free. -/
def claimTypeName (taken : List String) (name : String) : Except LayoutError (List String) :=
  if taken.contains name then .error (.duplicateName .type name) else .ok (name :: taken)

/-- The type names that a vertex input needs. -/
def VertexInput.typeNames (input : VertexInput) : List String :=
  [input.name, input.name ++ "Attribute", input.name ++ "Layout"]

/-- Checks blocks and takes their names. -/
def checkBlocks (slots : List Slot) (taken : List String) (blocks : List Block) :
    Except LayoutError (List String) :=
  blocks.foldlM (fun taken block => do
    let taken ← claimTypeName taken block.name
    block.check slots
    return taken) taken

/-- Checks vertex inputs and takes their names. -/
def checkVertexInputs (slots : List Slot) (taken : List String) (inputs : List VertexInput) :
    Except LayoutError (List String) :=
  inputs.foldlM (fun taken input => do
    let taken ← input.typeNames.foldlM claimTypeName taken
    input.check slots
    return taken) taken

namespace Schema

/-- The contract of a schema, or the first thing that is wrong with it. -/
def validate (schema : Schema) : Except LayoutError Contract := do
  checkName schema.name
  let slots ← schema.slots
  let taken ← checkBlocks slots (takenTypeNames slots) schema.blocks
  let _ ← checkVertexInputs slots taken schema.vertexInputs
  return { name := schema.name
           hostRules := schema.hostRules
           slots := slots
           blocks := schema.blocks
           vertexInputs := schema.vertexInputs }

end Schema

end ShaderLayout
