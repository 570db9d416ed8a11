import ShaderLayout.Error

/-!
Arguments of a render pass. An item binds a resource, or an array of resources
with consecutive indices, to a slot for some stages of the pipeline.
-/

namespace ShaderLayout

/-- A set of pipeline stages, one bit for each; bits without a stage are kept. -/
structure Stages where
  bits : UInt32
  deriving DecidableEq, Repr

namespace Stages

def vertex : Stages := ⟨1⟩
def fragment : Stages := ⟨2⟩
def compute : Stages := ⟨4⟩

def union (a b : Stages) : Stages :=
  ⟨a.bits ||| b.bits⟩

def isEmpty (stages : Stages) : Bool :=
  stages.bits == 0

/-- Whether two sets have a stage in common. -/
def meets (a b : Stages) : Bool :=
  a.bits &&& b.bits != 0

end Stages

/-- An index of a class together with the slot it belongs to. -/
structure BoundIndex where
  bindingClass : BindingClass
  index : UInt32
  slot : String
  deriving DecidableEq, Repr

structure ArgumentItem where
  name : String
  /-- The class that the item is declared with. -/
  bindingClass : BindingClass
  /-- The index, with the class it really has. -/
  bound : BoundIndex
  stages : Stages
  /-- The number of resources, more than one for an array. -/
  count : UInt32
  deriving DecidableEq, Repr

namespace ArgumentItem

/-- The first index of the item. -/
def start (item : ArgumentItem) : Nat :=
  item.bound.index.toNat

/-- The index behind the last one of the item. -/
def stop (item : ArgumentItem) : Nat :=
  item.bound.index.toNat + item.count.toNat

/-- The indices of the item with the end excluded, unless they leave the 32 bits. -/
def range? (item : ArgumentItem) : Option (Nat × Nat) :=
  if item.stop < Nat.pow 2 32 then some (item.start, item.stop) else none

/-- Whether two items have an index in common. -/
def overlaps (a b : ArgumentItem) : Bool :=
  a.start < b.stop && b.start < a.stop

end ArgumentItem

/-- The items that some of the given stages can see. -/
def visibleItems (stages : Stages) (items : List ArgumentItem) : List ArgumentItem :=
  items.filter fun item => item.stages.meets stages

end ShaderLayout
