import ShaderLayout.Contract.Basic
import ShaderLayout.Text.Lines

/-!
Targets. From one contract come a header for MSL shaders and C code, a WGSL
module, and bindings for the Rust host. Each follows the alignment rules of its
side.
-/

namespace ShaderLayout

inductive Target where
  | msl | wgsl | rust
  deriving DecidableEq, Repr

namespace Target

def all : List Target := [.msl, .wgsl, .rust]

def name : Target → String
  | .msl => "msl"
  | .wgsl => "wgsl"
  | .rust => "rust"

def ofName? (name : String) : Option Target :=
  all.find? fun target => target.name == name

/-- The rules that a target lays blocks out by; the host has its own in the contract. -/
def rules (target : Target) (contract : Contract) : LayoutRules :=
  match target with
  | .msl => .metal
  | .wgsl => .wgsl
  | .rust => contract.hostRules

end Target

/-- What files are generated from. -/
structure Generation where
  contract : Contract
  /-- The name of the schema, for remarks in the files. -/
  schemaName : String
  /-- The text of the schema, when host code is to carry it. -/
  schemaText : Option String

/-- The remark at the top of each generated file. -/
def Generation.banner (generation : Generation) : List String :=
  [s!"// This file is generated from {generation.schemaName} by shader-gen. Do not edit manually.",
    s!"// Contract: {generation.contract.name}"]

/-- The name of the enumeration of the indices of a class. -/
def BindingClass.enumName (bindingClass : BindingClass) : String :=
  match bindingClass with
  | .buffer => "BufferIndex"
  | .texture => "TextureIndex"
  | .sampler => "SamplerIndex"

/-- The scalar slots with their types; only buffers hold scalars. -/
def Contract.scalarSlots (contract : Contract) : List (Slot × FieldType) :=
  (contract.slotsOf .buffer).filterMap fun slot =>
    match slot.kind with
    | .scalar type => some (slot, type)
    | _ => none

end ShaderLayout
