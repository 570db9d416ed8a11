import ShaderLayout.Layout.Block
import ShaderLayout.Layout.Mismatch

/-!
Observed layouts. A compiler tells the size of a structure and the name and
offset of each member; comparing a computed layout with what was observed finds
the first difference.
-/

namespace ShaderLayout

structure ObservedField where
  name : String
  offset : Nat
  deriving DecidableEq, Repr

/-- What the compiler of one side says about a block. -/
structure ObservedLayout where
  block : String
  size : Nat
  fields : List ObservedField
  deriving DecidableEq, Repr

namespace BlockLayout

/-- The part of a layout that a compiler would show. -/
def observed (layout : BlockLayout) : ObservedLayout :=
  { block := layout.name
    size := layout.size
    fields := layout.fields.map fun field => ⟨field.name, field.offset⟩ }

/-- The first difference between two field lists of one length, from `position` on. -/
def compareFields (block : String) :
    Nat → List FieldLayout → List ObservedField → Except LayoutMismatch Unit
  | position, expected :: expecteds, found :: founds =>
    if expected.name ≠ found.name then
      .error (.fieldName block position expected.name found.name)
    else if expected.offset ≠ found.offset then
      .error (.offset block expected.name expected.offset found.offset)
    else compareFields block (position + 1) expecteds founds
  | _, _, _ => .ok ()

/-- Compares a layout with what was observed on the other side: the number of fields first,
then field by field the name and the offset, and the size at the end. -/
def compare (layout : BlockLayout) (observed : ObservedLayout) : Except LayoutMismatch Unit := do
  if observed.fields.length ≠ layout.fields.length then
    throw (.fieldCount layout.name layout.fields.length observed.fields.length)
  compareFields layout.name 0 layout.fields observed.fields
  if observed.size ≠ layout.size then
    throw (.size layout.name layout.size observed.size)

end BlockLayout

end ShaderLayout
