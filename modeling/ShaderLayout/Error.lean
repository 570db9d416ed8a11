import ShaderLayout.File.Error
import ShaderLayout.Layout.Mismatch
import ShaderLayout.Text.Quoted
import ShaderLayout.Toml.Fault

/-!
Everything that can be wrong with a schema, a layout or a use of it. Each error
is a cause; the wording is in one place.
-/

namespace ShaderLayout

/-- The names among which a name has to be unique. -/
inductive NameKind where
  | slot (bindingClass : BindingClass)
  | field
  | attribute
  | type
  deriving DecidableEq, Repr

def NameKind.name : NameKind → String
  | .slot bindingClass => bindingClass.name
  | .field => "field"
  | .attribute => "attribute"
  | .type => "type"

/-- Why a slot does not suit its owner. -/
inductive SlotConflict where
  | scalarAndVertex
  | onlyBuffers
  | notBlockSlot
  | notVertexSlot
  deriving DecidableEq, Repr

def SlotConflict.message : SlotConflict → String
  | .scalarAndVertex => "a slot is either scalar or vertex"
  | .onlyBuffers => "only buffer slots carry scalar or vertex data"
  | .notBlockSlot => "blocks can only live in block slots"
  | .notVertexSlot => "vertex layouts need a slot declared with `vertex = true`"

/-- What is wrong with a vertex layout. -/
inductive VertexFault where
  | noAttributes
  | duplicateAttribute (name : String)
  | matrixAttribute (name : String)
  | shortStride (stride packed : Nat)
  | unalignedStride (stride : Nat)
  deriving DecidableEq, Repr

def VertexFault.message : VertexFault → String
  | .noAttributes => "no attributes"
  | .duplicateAttribute name => s!"duplicate attribute `{name}`"
  | .matrixAttribute name => s!"attribute `{name}` cannot be a matrix"
  | .shortStride stride packed => s!"stride {stride} is smaller than the packed size {packed}"
  | .unalignedStride stride => s!"stride {stride} is not a multiple of 4"

inductive LayoutError where
  | unreadable (path : String) (cause : FileError)
  | malformed (fault : Toml.Fault)
  | invalidIdentifier (name : String)
  | duplicateIndex (bindingClass : BindingClass) (index : UInt32) (first second : String)
  | duplicateName (kind : NameKind) (name : String)
  | unknownSlot (owner slot : String)
  | slotKindMismatch (owner slot : String) (conflict : SlotConflict)
  | emptyBlock (block : String)
  | unknownBlock (block : String)
  | unknownField (block field : String)
  | invalidVertexLayout (layout : String) (fault : VertexFault)
  | typeMismatch (block field : String) (expected found : FieldType)
  | bufferTooSmall (block : String) (expected found : Nat)
  /-- A front end refused a shader module, with a message. -/
  | shaderMalformed (message : String)
  /-- The two sides named by `side` differ in a layout. -/
  | mismatch (side : String) (cause : LayoutMismatch)
  deriving DecidableEq, Repr

namespace LayoutError

def message : LayoutError → String
  | .unreadable path _ => "failed to read schema " ++ Text.literal path
  | .malformed _ => "failed to parse schema"
  | .invalidIdentifier name => s!"invalid identifier `{name}`"
  | .duplicateIndex bindingClass index first second =>
    s!"{bindingClass.name} slots `{first}` and `{second}` share index {index}"
  | .duplicateName kind name => s!"duplicate {kind.name} name `{name}`"
  | .unknownSlot owner slot => s!"`{owner}` references unknown buffer slot `{slot}`"
  | .slotKindMismatch owner slot conflict =>
    s!"`{owner}` cannot use slot `{slot}`: {conflict.message}"
  | .emptyBlock block => s!"block `{block}` has no fields"
  | .unknownBlock block => s!"unknown block `{block}`"
  | .unknownField block field => s!"block `{block}` has no field `{field}`"
  | .invalidVertexLayout layout fault => s!"vertex layout `{layout}`: {fault.message}"
  | .typeMismatch block field expected found =>
    s!"`{block}.{field}` is {expected.name}, got a {found.name} value"
  | .bufferTooSmall block expected found =>
    s!"buffer for `{block}` is {found} bytes, layout needs {expected}"
  | .shaderMalformed message => s!"failed to parse wgsl source: {message}"
  | .mismatch side _ => s!"layout mismatch ({side})"

/-- The text of the cause behind an error, for the errors that have one. -/
def cause? : LayoutError → Option String
  | .unreadable _ cause => some cause.message
  | .malformed fault => some fault.message
  | .mismatch _ cause => some cause.message
  | _ => none

end LayoutError

end ShaderLayout
