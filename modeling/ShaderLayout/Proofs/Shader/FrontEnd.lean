import ShaderLayout.Proofs.Checks
import ShaderLayout.Proofs.Layout.Comparison
import ShaderLayout.Shader.Verify

/-!
What the check of a module tells of it, whatever its front end reads and whatever
types it knows. The check sees the name and the offset of each member and the
size of the structure, and nothing else: a member may have another type than its
field, as long as nothing behind it moves. Where structures place their members
one behind the other, what follows for a type is that it ends in front of the
next field.
-/

namespace ShaderLayout

namespace Shader

variable {α : Type}

/-! ### Layouts that are observed -/

theorem FrontEnd.layouts_eq_ok_iff {frontEnd : FrontEnd α} {source : String}
    {observed : List ObservedLayout} :
    frontEnd.layouts source = .ok observed ↔
      ∃ types, frontEnd.types source = .ok types ∧
        observed = types.filterMap ModuleType.layout? := by
  rw [layouts, bind_eq_ok_iff]
  simp only [mapError_eq_ok_iff]
  exact exists_congr fun types => and_congr_right fun _ =>
    ⟨fun h => (Except.ok.inj h).symm, fun h => congrArg Except.ok h.symm⟩

/-- A text has layouts or is refused. -/
theorem FrontEnd.layouts_cases (frontEnd : FrontEnd α) (source : String) :
    (∃ observed, frontEnd.layouts source = .ok observed) ∨
      ∃ message, frontEnd.layouts source = .error (.shaderMalformed message) := by
  rw [layouts]
  cases frontEnd.types source with
  | error message => exact Or.inr ⟨message, rfl⟩
  | ok types => exact Or.inl ⟨_, rfl⟩

/-- Among layouts of different names each goes by its own. -/
theorem layoutNamed?_of_mem {observed : List ObservedLayout} {layout : ObservedLayout}
    (hnames : (observed.map ObservedLayout.block).Nodup) (h : layout ∈ observed) :
    layoutNamed? layout.block observed = some layout := by
  refine find?_name_of_mem ?_ (List.mem_reverse.mpr h)
  rw [List.map_reverse]
  exact List.nodup_reverse.mpr hnames

theorem block_of_layoutNamed? {name : String} {observed : List ObservedLayout}
    {layout : ObservedLayout} (h : layoutNamed? name observed = some layout) :
    layout.block = name := by
  simpa using List.find?_some h

theorem checkBlock_eq_ok_iff {observed : List ObservedLayout} {block : Block} :
    checkBlock observed block = .ok () ↔
      layoutNamed? block.name observed = some (block.layout .wgsl).observed := by
  rw [checkBlock]
  cases hfound : layoutNamed? block.name observed with
  | none =>
      constructor <;> intro h <;> cases h
  | some layout =>
      rw [mapError_eq_ok_iff,
        BlockLayout.compare_eq_ok_iff_observed (block_of_layoutNamed? hfound).symm,
        Option.some.injEq, eq_comm]

/-! ### Structures of a module -/

/-- Members from `cursor` on, each at the next multiple of its alignment and with room for its type,
in a structure of `span` bytes. -/
inductive PlacedFrom (size : α → Nat) (span : Nat) : Nat → List (ModuleMember α) → Prop
  | nil {cursor : Nat} (hspan : cursor ≤ span) : PlacedFrom size span cursor []
  | cons {cursor align room : Nat} {member : ModuleMember α} {members : List (ModuleMember α)}
      (halign : 0 < align) (hoffset : member.offset = alignUp cursor align)
      (hroom : size member.type ≤ room)
      (hrest : PlacedFrom size span (member.offset + room) members) :
      PlacedFrom size span cursor (member :: members)

/-- Each type ends in front of the next member, and the last one within the structure. -/
def Fits (size : α → Nat) (span : Nat) : List (ModuleMember α) → Prop
  | [] => True
  | member :: members =>
    member.offset + size member.type ≤ (members.head?.map ModuleMember.offset).getD span ∧
      Fits size span members

theorem PlacedFrom.fits {size : α → Nat} {span cursor : Nat} {members : List (ModuleMember α)}
    (h : PlacedFrom size span cursor members) : Fits size span members := by
  induction h with
  | nil => trivial
  | @cons cursor align room member members halign hoffset hroom hrest ih =>
      refine ⟨Nat.le_trans (Nat.add_le_add_left hroom _) ?_, ih⟩
      -- The cursor stands behind the member, and the next offset is never in front of the cursor.
      cases hrest with
      | nil hspan => exact hspan
      | cons halign hoffset hroom hrest =>
          show _ ≤ ModuleMember.offset _
          rw [hoffset]
          exact le_alignUp _ halign

end Shader

open Shader

namespace Contract

variable {α : Type} {frontEnd : FrontEnd α} {contract : Contract} {source : String}

end Contract

end ShaderLayout
