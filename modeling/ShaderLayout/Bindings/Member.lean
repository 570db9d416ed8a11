import ShaderLayout.Layout.Block
import ShaderLayout.Layout.Vertex

/-!
Members of host structures. Host types are aligned to four bytes, so members
follow one another without gaps of their own; every gap of the layout, the one
at the end included, becomes a member of zero words. Offsets and size are then
those of the layout on every compiler.
-/

namespace ShaderLayout.Bindings

inductive Member where
  | field (name : String) (type : FieldType)
  | padding (name : String) (words : Nat)
  deriving DecidableEq, Repr

/-- Why fields cannot become members. -/
inductive MemberFault where
  /-- A field starts before the one in front of it ends. -/
  | overlap (name : String) (offset stop : Nat)
  /-- The size is smaller than the fields. -/
  | short (size stop : Nat)
  deriving DecidableEq, Repr

def MemberFault.message : MemberFault → String
  | .overlap name offset stop =>
    s!"field `{name}` at {offset} overlaps the previous field ending at {stop}"
  | .short size stop => s!"size {size} is smaller than the fields ({stop} bytes)"

/-- A field with the offset it has to get. -/
structure PlacedField where
  name : String
  type : FieldType
  offset : Nat
  deriving DecidableEq, Repr

namespace Member

def name : Member → String
  | .field name _ => name
  | .padding name _ => name

/-- The bytes a member takes on the host. -/
def size : Member → Nat
  | .field _ type => type.hostSize
  | .padding _ words => 4 * words

/-- The padding member with a number, for a gap of so many bytes. -/
def gap (number bytes : Nat) : Member :=
  .padding s!"_pad{number}" (bytes / 4)

/-- The members for fields from `cursor` on, in a structure of `size` bytes; the next padding
member gets the number `pads`. -/
def placeFrom (size : Nat) (pads cursor : Nat) :
    List PlacedField → Except MemberFault (List Member)
  | [] =>
    if size < cursor then .error (.short size cursor)
    else if cursor < size then .ok [gap pads (size - cursor)]
    else .ok []
  | placed :: rest => do
    if placed.offset < cursor then throw (.overlap placed.name placed.offset cursor)
    let stop := placed.offset + placed.type.hostSize
    if cursor < placed.offset then
      return gap pads (placed.offset - cursor) :: .field placed.name placed.type ::
        (← placeFrom size (pads + 1) stop rest)
    else
      return .field placed.name placed.type :: (← placeFrom size pads stop rest)

end Member

/-- The members of the structure for a block. -/
def blockMembers (layout : BlockLayout) : Except MemberFault (List Member) :=
  Member.placeFrom layout.size 0 0
    (layout.fields.map fun field => ⟨field.name, field.type, field.offset⟩)

/-- The members of the structure for a vertex. -/
def vertexMembers (layout : VertexLayout) : Except MemberFault (List Member) :=
  Member.placeFrom layout.stride 0 0
    (layout.attributes.map fun attr => ⟨attr.name, attr.format, attr.offset⟩)

end ShaderLayout.Bindings
