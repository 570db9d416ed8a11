import ShaderLayout.Error
import ShaderLayout.Layout.Observed
import ShaderLayout.Layout.Vertex

/-!
Layouts of a contract and the checks on it. A contract is portable under several
rule sets when every block has the same layout under all of them; bindings that
some other side declares have to name the slots of a class, all of them, each
with its index.
-/

namespace ShaderLayout.Contract

def blockLayout (contract : Contract) (name : String) (rules : LayoutRules) :
    Except LayoutError BlockLayout :=
  match contract.block? name with
  | some block => .ok (block.layout rules)
  | none => .error (.unknownBlock name)

/-- All blocks under the rules of the host. -/
def hostLayouts (contract : Contract) : List BlockLayout :=
  contract.blocks.map fun block => block.layout contract.hostRules

/-- Compares the layouts of a block under two rule sets. -/
def comparePortable (block : Block) (first other : LayoutRules) : Except LayoutError Unit :=
  ((block.layout first).compare (block.layout other).observed).mapError
    (.mismatch s!"{first.name} rules vs {other.name} rules")

/-- Checks that every block has the same layout under all the rule sets, each of which is held
against the first. -/
def checkPortability (contract : Contract) : List LayoutRules → Except LayoutError Unit
  | [] => .ok ()
  | first :: others =>
    contract.blocks.forM fun block => others.forM (comparePortable block first)

/-- Checks one declared binding against the slot of its name. -/
def checkBinding (contract : Contract) (bindingClass : BindingClass) (side name : String)
    (index : UInt32) : Except LayoutError Unit :=
  match contract.slot? bindingClass name with
  | none => .error (.unknownSlot side name)
  | some slot =>
    if slot.index ≠ index then
      .error (.mismatch side (.bindingIndex bindingClass name slot.index index))
    else .ok ()

/-- Checks the bindings of a class that `side` declares: each has to be a slot with its index,
and there have to be as many as the class has slots. -/
def checkBindings (contract : Contract) (bindingClass : BindingClass)
    (declared : List (String × UInt32)) (side : String) : Except LayoutError Unit := do
  declared.forM fun (name, index) => contract.checkBinding bindingClass side name index
  let expected := (contract.slotsOf bindingClass).length
  if declared.length ≠ expected then
    throw (.mismatch side
      (.fieldCount s!"{bindingClass.name} bindings" expected declared.length))

end ShaderLayout.Contract
