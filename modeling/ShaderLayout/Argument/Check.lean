import ShaderLayout.Argument.Item
import ShaderLayout.Contract.Basic

/-!
Checks on argument tables: each item on its own, each against the items before
it, and all of them against a contract.
-/

namespace ShaderLayout

inductive ArgumentError where
  | wrongClass (name : String) (declared bound : BindingClass)
  | sharedIndex (bindingClass : BindingClass) (index : Nat) (first second : String)
  | emptyArray (name : String)
  | indexOverflow (name : String) (index count : UInt32)
  | noStage (name : String)
  /-- The table does not fit the contract. -/
  | contract (error : LayoutError)
  deriving DecidableEq, Repr

def ArgumentError.message : ArgumentError → String
  | .wrongClass name declared bound =>
    s!"`{name}` is declared as a {declared.name} but bound with a {bound.name} index"
  | .sharedIndex bindingClass index first second =>
    s!"`{first}` and `{second}` share {bindingClass.name} index {index}"
  | .emptyArray name => s!"`{name}` has an array count of 0"
  | .indexOverflow name index count =>
    s!"`{name}` at index {index} with count {count} overflows the index space"
  | .noStage name => s!"`{name}` is visible to no shader stage"
  | .contract error => error.message

namespace ArgumentItem

/-- Checks an item on its own. -/
def check (item : ArgumentItem) : Except ArgumentError Unit := do
  if item.bindingClass ≠ item.bound.bindingClass then
    throw (.wrongClass item.name item.bindingClass item.bound.bindingClass)
  if item.stages.isEmpty then throw (.noStage item.name)
  if item.count = 0 then throw (.emptyArray item.name)
  if item.range?.isNone then
    throw (.indexOverflow item.name item.bound.index item.count)

/-- Checks an item against those before it: none of its class may share an index with it. -/
def checkAgainst (earlier : List ArgumentItem) (item : ArgumentItem) :
    Except ArgumentError Unit :=
  match earlier.find? fun other =>
    other.bindingClass = item.bindingClass && other.overlaps item with
  | some other =>
    .error (.sharedIndex item.bindingClass (max other.start item.start) other.name item.name)
  | none => .ok ()

/-- Checks items one after the other, behind those that passed. -/
def checkAll : List ArgumentItem → List ArgumentItem → Except ArgumentError Unit
  | _, [] => .ok ()
  | earlier, item :: items => do
    item.check
    item.checkAgainst earlier
    checkAll (earlier ++ [item]) items

/-- Checks an item against the slot of its name. -/
def checkSlot (contract : Contract) (item : ArgumentItem) : Except LayoutError Unit :=
  match contract.slot? item.bindingClass item.bound.slot with
  | none => .error (.unknownSlot item.name item.bound.slot)
  | some slot =>
    if slot.index ≠ item.bound.index then
      .error (.mismatch s!"argument `{item.name}`"
        (.bindingIndex item.bindingClass item.bound.slot slot.index item.bound.index))
    else .ok ()

end ArgumentItem

/-- Checks a table of arguments. -/
def checkArguments (items : List ArgumentItem) : Except ArgumentError Unit :=
  ArgumentItem.checkAll [] items

/-- Checks a table of arguments against a contract. -/
def Contract.checkArguments (contract : Contract) (items : List ArgumentItem) :
    Except ArgumentError Unit :=
  (items.forM (ArgumentItem.checkSlot contract)).mapError .contract

end ShaderLayout
