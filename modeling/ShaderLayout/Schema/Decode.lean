import ShaderLayout.Error
import ShaderLayout.Schema.Basic
import ShaderLayout.Toml.Decode
import ShaderLayout.Toml.Reader

/-! Schemas from TOML documents. -/

namespace ShaderLayout

open Toml

/-- The name of a field type. Inside a slot only the bare name will do. -/
def FieldType.ofBareName (value : Value) : Except Fault FieldType := do
  match FieldType.ofName? (← value.asString) with
  | some type => return type
  | none => throw (.unexpected "a field type")

/-- A slot is a name or a table. -/
def SlotEntry.ofToml : Value → Except Fault SlotEntry
  | .string name => .ok (.ofName name)
  | .table _ entries => do
    let record := Record.keyed entries
    let index ← record.optional 1 "index" (·.asNatBelow (Nat.pow 2 32))
    return {
      name := ← record.required 0 "name" Value.asString
      index := index.map UInt32.ofNat
      scalar := ← record.optional 2 "scalar" FieldType.ofBareName
      isVertex := ← record.withDefault 3 "vertex" false Value.asBoolean }
  | _ => .error (.unexpected "a slot")

def Field.ofToml (value : Value) : Except Fault Field := do
  let record ← value.asRecord
  return {
    name := ← record.required 0 "name" Value.asString
    type := ← record.required 1 "type" (Value.asChoice FieldType.ofName?) }

def Block.ofToml (value : Value) : Except Fault Block := do
  let record ← value.asRecord
  return {
    name := ← record.required 0 "name" Value.asString
    slot := ← record.required 1 "slot" Value.asString
    fields := ← record.required 2 "fields" (Value.asItems Field.ofToml) }

def Attribute.ofToml (value : Value) : Except Fault Attribute := do
  let record ← value.asRecord
  return {
    name := ← record.required 0 "name" Value.asString
    format := ← record.required 1 "format" (Value.asChoice FieldType.ofName?) }

def VertexInput.ofToml (value : Value) : Except Fault VertexInput := do
  let record ← value.asRecord
  return {
    name := ← record.required 0 "name" Value.asString
    slot := ← record.required 1 "slot" Value.asString
    stride := ← record.optional 2 "stride" (·.asNatBelow (Nat.pow 2 63))
    attributes := ← record.required 3 "attributes" (Value.asItems Attribute.ofToml) }

namespace Schema

/-- The name of the contract and the rules of the host. -/
def headOfToml (value : Value) : Except Fault (String × LayoutRules) := do
  let record ← value.asRecord
  return (← record.required 0 "name" Value.asString,
    ← record.withDefault 1 "host_rules" .metal (Value.asChoice LayoutRules.ofName?))

/-- The slots of the three classes. -/
def slotsOfToml (value : Value) :
    Except Fault (List SlotEntry × List SlotEntry × List SlotEntry) := do
  let record ← value.asRecord
  return (← record.withDefault 0 "buffers" [] (Value.asItems SlotEntry.ofToml),
    ← record.withDefault 1 "textures" [] (Value.asItems SlotEntry.ofToml),
    ← record.withDefault 2 "samplers" [] (Value.asItems SlotEntry.ofToml))

def ofToml (entries : Entries) : Except Fault Schema := do
  let record := Record.keyed entries
  let (name, hostRules) ← record.required 0 "contract" headOfToml
  let (buffers, textures, samplers) ← record.withDefault 1 "bindings" ([], [], []) slotsOfToml
  return {
    name, hostRules, buffers, textures, samplers
    blocks := ← record.withDefault 2 "blocks" [] (Value.asItems Block.ofToml)
    vertexInputs := ← record.withDefault 3 "vertex_layouts" [] (Value.asItems VertexInput.ofToml) }

/-- The schema that a text writes down. -/
def ofText (text : String) : Except LayoutError Schema :=
  (Toml.read text >>= ofToml).mapError .malformed

end Schema

end ShaderLayout
