import ShaderLayout.Contract.Basic

/-! What can differ between two descriptions of the same layout. -/

namespace ShaderLayout

inductive LayoutMismatch where
  | size (block : String) (expected found : Nat)
  | offset (block field : String) (expected found : Nat)
  | fieldName (block : String) (position : Nat) (expected found : String)
  | fieldCount (block : String) (expected found : Nat)
  | missingBlock (block : String)
  | bindingIndex (bindingClass : BindingClass) (name : String) (expected found : UInt32)
  deriving DecidableEq, Repr

namespace LayoutMismatch

def message : LayoutMismatch → String
  | .size block expected found => s!"block `{block}` is {found} bytes, expected {expected}"
  | .offset block field expected found =>
    s!"`{block}.{field}` is at offset {found}, expected {expected}"
  | .fieldName block position expected found =>
    s!"block `{block}` field #{position} is `{found}`, expected `{expected}`"
  | .fieldCount block expected found => s!"block `{block}` has {found} fields, expected {expected}"
  | .missingBlock block => s!"block `{block}` is missing"
  | .bindingIndex bindingClass name expected found =>
    s!"{bindingClass.name} slot `{name}` is bound at {found}, expected {expected}"

end LayoutMismatch

end ShaderLayout
