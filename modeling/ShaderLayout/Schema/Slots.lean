import ShaderLayout.Error
import ShaderLayout.Name.Identifier
import ShaderLayout.Schema.Basic

/-!
Checking of declared slots. Within a class no two slots may share a name, a
rendering of their names or an index; the classes do not meet.
-/

namespace ShaderLayout

/-- Checks that a name may stand in a schema. -/
def checkName (name : String) : Except LayoutError Unit :=
  if Name.isAccepted name then .ok () else .error (.invalidIdentifier name)

namespace SlotEntry

/-- What a declared slot holds: buffers hold blocks unless they say otherwise, and all other
slots hold a resource. -/
def kind (entry : SlotEntry) : BindingClass → Except SlotConflict SlotKind
  | .buffer => match entry.scalar, entry.isVertex with
    | some _, true => .error .scalarAndVertex
    | some type, false => .ok (.scalar type)
    | none, true => .ok .vertex
    | none, false => .ok .block
  | _ => match entry.scalar, entry.isVertex with
    | none, false => .ok .resource
    | _, _ => .error .onlyBuffers

/-- The slot that an entry at a place declares. -/
def slot (entry : SlotEntry) (bindingClass : BindingClass) (place : Nat) :
    Except LayoutError Slot := do
  let kind ← (entry.kind bindingClass).mapError (.slotKindMismatch entry.name entry.name)
  checkName entry.name
  return { name := entry.name
           bindingClass := bindingClass
           index := entry.index.getD (UInt32.ofNat place)
           kind := kind }

end SlotEntry

namespace Slot

/-- The first slot that agrees with another one in a property. -/
def sharing? [BEq β] (earlier : List Slot) (property : Slot → β) (slot : Slot) : Option Slot :=
  let value := property slot
  earlier.find? fun other => property other == value

/-- Checks a slot against those declared before it in its class. -/
def checkDistinct (earlier : List Slot) (slot : Slot) : Except LayoutError Unit := do
  if (sharing? earlier Slot.name slot).isSome then
    throw (.duplicateName (.slot slot.bindingClass) slot.name)
  if (sharing? earlier (Name.pascal ·.name) slot).isSome then
    throw (.duplicateName (.slot slot.bindingClass) (Name.pascal slot.name))
  if (sharing? earlier (Name.shouty ·.name) slot).isSome then
    throw (.duplicateName (.slot slot.bindingClass) (Name.shouty slot.name))
  if let some first := sharing? earlier Slot.index slot then
    throw (.duplicateIndex slot.bindingClass slot.index first.name slot.name)

/-- The slots that entries declare, behind those declared before them. -/
def declareAll (bindingClass : BindingClass) :
    List Slot → List SlotEntry → Except LayoutError (List Slot)
  | earlier, [] => .ok earlier
  | earlier, entry :: entries => do
    let slot ← entry.slot bindingClass earlier.length
    slot.checkDistinct earlier
    declareAll bindingClass (earlier ++ [slot]) entries

/-- The order of slots in a contract: by class, then by index. -/
def precedes (first second : Slot) : Bool :=
  first.bindingClass.rank < second.bindingClass.rank ||
    (first.bindingClass.rank == second.bindingClass.rank && first.index ≤ second.index)

end Slot

namespace Schema

/-- The slots of a class, in the order of their declaration. -/
def slotsOf (schema : Schema) (bindingClass : BindingClass) : Except LayoutError (List Slot) :=
  Slot.declareAll bindingClass [] (schema.entries bindingClass)

/-- All slots, in the order of a contract. -/
def slots (schema : Schema) : Except LayoutError (List Slot) := do
  let declared ← BindingClass.all.mapM schema.slotsOf
  return declared.flatten.mergeSort Slot.precedes

end Schema

end ShaderLayout
