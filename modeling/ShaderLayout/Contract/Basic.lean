import ShaderLayout.Field.Type

/-!
The layout contract: which slots a program binds, which blocks of data live in
its buffers, and how its vertices are laid out. Host code, shader code and all
generated declarations follow one contract.
-/

namespace ShaderLayout

/-- The classes of bindings; each is numbered on its own. -/
inductive BindingClass where
  | buffer | texture | sampler
  deriving DecidableEq, Repr

namespace BindingClass

def all : List BindingClass := [.buffer, .texture, .sampler]

def name : BindingClass → String
  | .buffer => "buffer"
  | .texture => "texture"
  | .sampler => "sampler"

def ofName? (name : String) : Option BindingClass :=
  all.find? fun bindingClass => bindingClass.name == name

/-- The place of a class among the slots of a contract. -/
def rank : BindingClass → Nat
  | .buffer => 0
  | .texture => 1
  | .sampler => 2

end BindingClass

/-- What a slot holds. -/
inductive SlotKind where
  /-- A texture or a sampler. -/
  | resource
  /-- One or more blocks of data. -/
  | block
  /-- A single value, such as a count. -/
  | scalar (type : FieldType)
  /-- Vertices. -/
  | vertex
  deriving DecidableEq, Repr

structure Slot where
  name : String
  bindingClass : BindingClass
  index : UInt32
  kind : SlotKind
  deriving DecidableEq, Repr

structure Field where
  name : String
  type : FieldType
  deriving DecidableEq, Repr

/-- A block of data that host and shader share, in the buffer slot `slot`. -/
structure Block where
  name : String
  slot : String
  fields : List Field
  deriving DecidableEq, Repr

structure Attribute where
  name : String
  format : FieldType
  deriving DecidableEq, Repr

/-- The attributes of a vertex. Without a stride of its own a vertex is packed. -/
structure VertexInput where
  name : String
  slot : String
  stride : Option Nat
  attributes : List Attribute
  deriving DecidableEq, Repr

structure Contract where
  name : String
  /-- The rules that host structures follow. -/
  hostRules : LayoutRules
  /-- All slots, by class and then by index. -/
  slots : List Slot
  blocks : List Block
  vertexInputs : List VertexInput
  deriving DecidableEq, Repr

namespace Block

/-- The first field of that name. -/
def field? (block : Block) (name : String) : Option Field :=
  block.fields.find? fun field => field.name == name

end Block

namespace Contract

def slotsOf (contract : Contract) (bindingClass : BindingClass) : List Slot :=
  contract.slots.filter fun slot => slot.bindingClass = bindingClass

def slot? (contract : Contract) (bindingClass : BindingClass) (name : String) : Option Slot :=
  (contract.slotsOf bindingClass).find? fun slot => slot.name == name

def block? (contract : Contract) (name : String) : Option Block :=
  contract.blocks.find? fun block => block.name == name

def blocksIn (contract : Contract) (slot : String) : List Block :=
  contract.blocks.filter fun block => block.slot == slot

def vertexInput? (contract : Contract) (name : String) : Option VertexInput :=
  contract.vertexInputs.find? fun input => input.name == name

end Contract

end ShaderLayout
