import ShaderLayout.Contract.Basic

/-!
Block layouts. Fields are placed in order, each at the first offset behind the
one before that suits its alignment; the block is aligned like its strictest
field and its size is rounded up to that alignment, so that blocks can stand in
an array without gaps.
-/

namespace ShaderLayout

/-- The least multiple of `align` that is not below `n`. -/
def alignUp (n align : Nat) : Nat :=
  (n + align - 1) / align * align

structure FieldLayout where
  name : String
  type : FieldType
  offset : Nat
  size : Nat
  deriving DecidableEq, Repr

/-- The first byte behind the field. -/
def FieldLayout.stop (field : FieldLayout) : Nat :=
  field.offset + field.size

structure BlockLayout where
  name : String
  rules : LayoutRules
  fields : List FieldLayout
  /-- The bytes of one block, which is also the stride of an array of blocks. -/
  size : Nat
  align : Nat
  deriving DecidableEq, Repr

namespace FieldLayout

/-- Places a field at the first suitable offset from `cursor` on. -/
def place (rules : LayoutRules) (cursor : Nat) (field : Field) : FieldLayout :=
  { name := field.name
    type := field.type
    offset := alignUp cursor field.type.align
    size := field.type.size rules }

/-- Places fields one behind the other, the first from `cursor` on. -/
def placeAll (rules : LayoutRules) : Nat → List Field → List FieldLayout
  | _, [] => []
  | cursor, field :: fields =>
    place rules cursor field :: placeAll rules (place rules cursor field).stop fields

/-- The first byte behind fields placed one behind the other from `cursor` on. -/
def stopAll (rules : LayoutRules) : Nat → List Field → Nat
  | cursor, [] => cursor
  | cursor, field :: fields => stopAll rules (place rules cursor field).stop fields

end FieldLayout

/-- The strictest alignment of the fields, one for no fields. -/
def Block.align (block : Block) : Nat :=
  block.fields.foldr (fun field align => max field.type.align align) 1

/-- The layout of a block under a rule set. -/
def Block.layout (block : Block) (rules : LayoutRules) : BlockLayout :=
  { name := block.name
    rules := rules
    fields := FieldLayout.placeAll rules 0 block.fields
    size := alignUp (FieldLayout.stopAll rules 0 block.fields) block.align
    align := block.align }

namespace BlockLayout

/-- The first field of that name. -/
def field? (layout : BlockLayout) (name : String) : Option FieldLayout :=
  layout.fields.find? fun field => field.name == name

end BlockLayout

end ShaderLayout
