import ShaderLayout.Notice
import ShaderLayout.Schema.Validate

/-!
Gaps in the numbering of slots, and the notices of a validation. Slots are meant
to be numbered from zero without gaps; a gap is allowed but worth a warning. The
warnings of the classes before a faulty one are given all the same.
-/

namespace ShaderLayout

/-- A range of numbers, with its end excluded. -/
@[ext] structure NumberRange where
  start : UInt32
  stop : UInt32
  deriving DecidableEq, Repr

/-- How many numbers there are in a range. -/
def NumberRange.length (range : NumberRange) : Nat := range.stop.toNat - range.start.toNat

/-- The number behind another one. Behind the last of 32 bits there is none; it stays. -/
def numberBehind (number : UInt32) : UInt32 :=
  if number.toNat + 1 < UInt32.size then number + 1 else number

/-- The ranges of numbers from `next` on that an increasing list of numbers leaves out below its
largest. -/
def unusedFrom : UInt32 → List UInt32 → List NumberRange
  | _, [] => []
  | next, index :: rest =>
    if next < index then ⟨next, index⟩ :: unusedFrom (numberBehind index) rest
    else unusedFrom (numberBehind index) rest

/-- The ranges of indices below the largest that no slot has. -/
def unusedRanges (slots : List Slot) : List NumberRange :=
  unusedFrom 0 ((slots.map (·.index)).mergeSort)

/-- A range in words. -/
def NumberRange.text (range : NumberRange) : String :=
  if range.length = 1 then s!"index {range.start} is"
  else s!"indices {range.start}..{range.stop} are"

def gapText (bindingClass : BindingClass) (range : NumberRange) : String :=
  s!"{bindingClass.name} {range.text} unused, numbering is not contiguous"

namespace Schema

/-- The warnings about gaps, class by class, up to a faulty class. -/
def gapTexts (schema : Schema) : List BindingClass → List String
  | [] => []
  | bindingClass :: rest =>
    match schema.slotsOf bindingClass with
    | .ok slots => (unusedRanges slots).map (gapText bindingClass) ++ schema.gapTexts rest
    | .error _ => []

def summary (contract : Contract) : String :=
  s!"contract `{contract.name}`: {contract.slots.length} slots, {contract.blocks.length} blocks, " ++
    s!"{contract.vertexInputs.length} vertex layouts"

/-- What a validation tells besides its result. -/
def notices (schema : Schema) : List Notice :=
  match checkName schema.name with
  | .error _ => []
  | .ok () =>
    (schema.gapTexts BindingClass.all).map (⟨.warning, .schema, ·⟩) ++
      match schema.validate with
      | .ok contract => [⟨.debug, .schema, summary contract⟩]
      | .error _ => []

end Schema

end ShaderLayout
