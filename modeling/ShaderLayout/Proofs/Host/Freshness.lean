import ShaderLayout.Proofs.Host.Items
import ShaderLayout.Proofs.Host.Verification

/-!
Bindings against the contract that they were generated from. A structure names
its slot by a rendering, which tells less than the name; the text has one variant
of that rendering, with the index and the name of the slot that is meant. What a
compiler makes of the declarations then passes all checks.
-/

namespace ShaderLayout

open Bindings Text

namespace Bindings

/-! ### Rows of a table -/

/-- The rows of a table that start with a lead. -/
def rowsFor (lead : String) (rows : List String) : List String :=
  rows.filter fun row => lead.toList.isPrefixOf row.toList

/-- Where leads end at a blank, only the row of a variant starts with its lead. -/
theorem rowsFor_map {variants : List Variant} {row : Variant → String} {lead : String}
    (hnames : (variants.map Variant.name).Nodup)
    (hblank : ∀ variant ∈ variants, ' ' ∉ variant.name.toList) (variant : Variant)
    (hvariant : variant ∈ variants) (before sep : List Char) (value : Variant → List Char)
    (hbefore : ' ' ∉ before) (hlead : lead.toList = before ++ variant.name.toList ++ ' ' :: sep)
    (hrow : ∀ other, (row other).toList =
      before ++ other.name.toList ++ ' ' :: (sep ++ value other)) :
    rowsFor lead (variants.map row) = [row variant] := by
  have hcut {other : Variant} (hother : other ∈ variants) (rest : List Char) :
      (before ++ other.name.toList ++ ' ' :: rest).takeWhile (· != ' ') =
        before ++ other.name.toList := by
    refine takeWhile_append_blank ?_ rest
    rw [List.mem_append, not_or]
    exact ⟨hbefore, hblank other hother⟩
  have hstarts : ∀ other ∈ variants, lead.toList.isPrefixOf (row other).toList =
      decide (other = variant) := by
    intro other hother
    rw [Bool.eq_iff_iff, List.isPrefixOf_iff_prefix, decide_eq_true_iff]
    constructor
    · rintro ⟨rest, heq⟩
      rw [hlead, hrow, List.append_assoc, List.cons_append] at heq
      have hword := congrArg (List.takeWhile (· != ' ')) heq
      rw [hcut hvariant, hcut hother, List.append_cancel_left_eq, String.toList_inj] at hword
      exact List.inj_on_of_nodup_map hnames hother hvariant hword.symm
    · rintro rfl
      refine ⟨value other, ?_⟩
      rw [hlead, hrow, List.append_assoc, List.cons_append]
  rw [rowsFor, List.filter_map, Function.comp_def, List.filter_congr hstarts, List.filter_eq,
    List.count_eq_one_of_mem hnames.of_map hvariant]
  rfl

end Bindings

/-- The variant of a slot stands in a text once, with its index and the name of the slot. -/
structure Slot.StandsIn (slot : Slot) (text : List String) : Prop where
  declared : rowsFor s!"{Name.pascal slot.name} = "
      (bodyOf (ItemKind.enumeration.head slot.bindingClass.enumName) text) =
    [s!"{Name.pascal slot.name} = {slot.index},"]
  index : rowsFor s!"{slot.bindingClass.enumName}::{Name.pascal slot.name} => "
      (bodyOf "match self" (bodyOf "pub const fn index(self) -> u32"
        (bodyOf (ItemKind.methods.head slot.bindingClass.enumName) text))) =
    [s!"{slot.bindingClass.enumName}::{Name.pascal slot.name} => {slot.index},"]
  name : rowsFor s!"{slot.bindingClass.enumName}::{Name.pascal slot.name} => "
      (bodyOf "match self" (bodyOf "pub const fn name(self) -> &'static str"
        (bodyOf (ItemKind.methods.head slot.bindingClass.enumName) text))) =
    [s!"{slot.bindingClass.enumName}::{Name.pascal slot.name} => \"{slot.name}\","]

/-- A line that names a buffer by a rendering means, in a text, the slot of that name. -/
structure Contract.SlotLine (contract : Contract) (text : List String) (name line : String)
    (slot : Slot) : Prop where
  found : contract.slot? .buffer name = some slot
  buffer : slot.bindingClass = .buffer
  line : line = s!"const SLOT: BufferIndex = BufferIndex::{Name.pascal slot.name};"
  slot : slot.StandsIn text

namespace Bindings

variable {contract : Contract} {bindings : Bindings} {text : List String}

theorem Renders.slot_standsIn (h : bindings.Renders contract) (hnamed : contract.WellNamed)
    (htext : bindings.StandsIn text) {slot : Slot} (hslot : slot ∈ contract.slots) :
    slot.StandsIn text := by
  have henum : indexEnum contract slot.bindingClass ∈ bindings.enums := by
    rw [h.enums]
    exact List.mem_map_of_mem slot.bindingClass.mem_all
  obtain ⟨hvariants, -, hindices, hslots⟩ := htext.enums _ henum
  have hnames : ((indexEnum contract slot.bindingClass).variants.map Variant.name).Nodup := by
    rw [indexEnum, List.map_map]
    exact hnamed.nodup_pascal_slotsOf slot.bindingClass
  have hblank : ∀ variant ∈ (indexEnum contract slot.bindingClass).variants,
      ' ' ∉ variant.name.toList := by
    refine List.forall_mem_map.mpr fun other hother hmem => ?_
    rw [Name.toList_pascal] at hmem
    have haccepted := hnamed.slots other (Contract.mem_slotsOf.mp hother).1
    have halnum := Name.isAlphanum_of_mem_pascalChars (Name.isAccepted_iff.mp haccepted).1 hmem
    exact absurd halnum (by decide)
  let variant : Variant := ⟨Name.pascal slot.name, slot.index, slot.name⟩
  have hvariant : variant ∈ (indexEnum contract slot.bindingClass).variants :=
    List.mem_map_of_mem (Contract.mem_slotsOf.mpr ⟨hslot, rfl⟩)
  have hclass : ' ' ∉ (slot.bindingClass.enumName ++ "::").toList := by
    cases slot.bindingClass <;> decide +kernel
  have hclassName : (indexEnum contract slot.bindingClass).bindingClass = slot.bindingClass := rfl
  rw [hclassName] at hvariants hindices hslots
  refine ⟨?_, ?_, ?_⟩
  · rw [hvariants]
    refine rowsFor_map hnames hblank variant hvariant [] "= ".toList
      (fun other => (toString other.index).toList ++ [',']) List.not_mem_nil ?_ fun other => ?_
    · simp [variant, toString]
    · simp [toString]
  · rw [hindices]
    refine rowsFor_map hnames hblank variant hvariant _ "=> ".toList
      (fun other => (toString other.index).toList ++ [',']) hclass ?_ fun other => ?_
    · simp [variant, toString]
    · simp [toString]
  · rw [hslots]
    refine rowsFor_map hnames hblank variant hvariant _ "=> ".toList
      (fun other => '"' :: other.slot.toList ++ ['"', ',']) hclass ?_ fun other => ?_
    · simp [variant, toString]
    · simp [toString]

theorem Renders.slotLine (h : bindings.Renders contract) (hnamed : contract.WellNamed)
    (htext : bindings.StandsIn text) {name variant : String}
    (hslot : ∃ slot ∈ contract.slotsOf .buffer, slot.name = name ∧
      variant = Name.pascal slot.name) :
    ∃ slot, contract.SlotLine text name s!"const SLOT: BufferIndex = BufferIndex::{variant};"
      slot := by
  obtain ⟨slot, hslot, hname, rfl⟩ := hslot
  obtain ⟨hmem, hclass⟩ := Contract.mem_slotsOf.mp hslot
  exact ⟨slot, hnamed.slot?_eq_some_iff.mpr ⟨hslot, hname⟩, hclass, rfl,
    h.slot_standsIn hnamed htext hmem⟩

/-- The slot of a block stands in the text. -/
theorem Renders.block_slotLine (h : bindings.Renders contract) (hnamed : contract.WellNamed)
    (htext : bindings.StandsIn text) {block : Block} (hblock : block ∈ contract.blocks) :
    ∃ line slot, bodyOf (ItemKind.boundBlock.head block.name) text = [line] ∧
      contract.SlotLine text block.slot line slot := by
  obtain ⟨struct, hstruct, hrenders⟩ := exists_related_of_mem h.blocks hblock
  obtain ⟨slot, hslot⟩ := h.slotLine hnamed htext hrenders.slot
  have hbody := (htext.blocks struct hstruct).slot
  rw [hrenders.layout] at hbody
  exact ⟨_, slot, hbody, hslot⟩

/-- The slot of a vertex stands in the text. -/
theorem Renders.vertex_slotLine (h : bindings.Renders contract) (hnamed : contract.WellNamed)
    (htext : bindings.StandsIn text) {input : VertexInput}
    (hinput : input ∈ contract.vertexInputs) :
    ∃ line slot, (bodyOf (ItemKind.vertexInput.head input.name) text)[1]? = some line ∧
      contract.SlotLine text input.slot line slot := by
  obtain ⟨struct, hstruct, hrenders⟩ := exists_related_of_mem h.vertices hinput
  obtain ⟨slot, hslot⟩ := h.slotLine hnamed htext hrenders.slot
  have hbody := (htext.vertices struct hstruct).tables
  rw [hrenders.layout] at hbody
  refine ⟨_, slot, ?_, hslot⟩
  rw [show input.layout.name = input.name from rfl] at hbody
  rw [hbody]
  rfl

/-! ### Tables against their own contract -/

/-- What a compiler makes of members, whether or not it aligns them. -/
theorem Exact.compiled_eq {size : Nat} {placed : List PlacedField} {members : List Member}
    (h : Exact size placed members) :
    totalSize members = Member.compiledSize members ∧
      fieldOffsets 0 members = ((Member.compiled 0 members).filterMap Member.placed?).map
        fun field => ⟨field.name, field.offset⟩ := by
  rw [h.totalSize_eq, h.compiledSize, h.fieldOffsets_eq, h.compiled]
  exact ⟨rfl, rfl⟩

end Bindings

/-- Tables that say what a contract says pass all checks against it. -/
theorem HostTables.Describes.verify {tables : HostTables} {contract : Contract}
    (h : tables.Describes contract) (hnamed : contract.WellNamed) :
    tables.verifyIndices contract = .ok () ∧ tables.verifyBlocks contract = .ok () ∧
      tables.verifyVertices contract = .ok () := by
  have hmatches : tables.Matches contract :=
    ⟨h.indices_match_iff.mpr fun _ _ => Iff.rfl,
      h.blocks_match_iff.mpr fun block hblock => ⟨block, hblock, rfl, rfl⟩⟩
  obtain ⟨hindices, hblocks⟩ := (h.verify_eq_ok_iff hnamed hnamed).mpr hmatches
  refine ⟨hindices, hblocks, (h.verifyVertices_eq_ok_iff hnamed).mpr fun input hinput => ?_⟩
  exact ⟨input, hinput, rfl, rfl, rfl, rfl⟩

namespace Schema

/-- Bindings fresh from a contract. In the lines of their text every slot has one variant with its
index and its name, and the line of each structure means the slot that the contract names. A
compiler gives the structures their sizes and offsets, and the tables it makes pass all checks
against the contract. -/
theorem fresh_bindings_verify (schema : Schema) (contract : Contract)
    (hvalid : schema.validate = .ok contract) (schemaName : String) (schemaText : Option String) :
    ∃ bindings tables,
      ofContract contract = .ok bindings ∧
      let text := lines ⟨contract, schemaName, schemaText⟩ bindings
      Target.rust.text ⟨contract, schemaName, schemaText⟩ = .ok (unlines text) ∧
      bindings.Renders contract ∧ bindings.StandsIn text ∧
      (∀ slot ∈ contract.slots, slot.StandsIn text) ∧
      (∀ block ∈ contract.blocks, ∃ line slot,
        bodyOf (ItemKind.boundBlock.head block.name) text = [line] ∧
          contract.SlotLine text block.slot line slot) ∧
      (∀ input ∈ contract.vertexInputs, ∃ line slot,
        (bodyOf (ItemKind.vertexInput.head input.name) text)[1]? = some line ∧
          contract.SlotLine text input.slot line slot) ∧
      (∀ members ∈ bindings.blocks.map (·.members) ++ bindings.vertices.map (·.members),
        totalSize members = Member.compiledSize members ∧
          fieldOffsets 0 members = ((Member.compiled 0 members).filterMap Member.placed?).map
            fun field => ⟨field.name, field.offset⟩) ∧
      bindings.tables? = some tables ∧
      tables.verifyIndices contract = .ok () ∧ tables.verifyBlocks contract = .ok () ∧
      tables.verifyVertices contract = .ok () := by
  obtain ⟨hwell, hyields⟩ := validate_eq_ok_iff.mp hvalid
  have hnamed := hyields.wellNamed hwell
  obtain ⟨bindings, hbindings, hrenders⟩ := exists_renders hvalid
  obtain ⟨tables, htables, hdescribes⟩ := hrenders.exists_tables hnamed
  have htext : bindings.StandsIn (lines ⟨contract, schemaName, schemaText⟩ bindings) :=
    hrenders.standsIn_lines hwell hyields
  refine ⟨bindings, tables, hbindings, bind_eq_ok_iff.mpr ⟨bindings, hbindings, rfl⟩, hrenders,
    htext, fun slot => hrenders.slot_standsIn hnamed htext,
    fun block => hrenders.block_slotLine hnamed htext,
    fun input => hrenders.vertex_slotLine hnamed htext, ?_, htables, hdescribes.verify hnamed⟩
  refine List.forall_mem_append.mpr ⟨List.forall_mem_map.mpr ?_, List.forall_mem_map.mpr ?_⟩
  · exact forall_mem_of_forall₂ hrenders.blocks.flip fun _ _ hstruct => hstruct.exact.compiled_eq
  · exact forall_mem_of_forall₂ hrenders.vertices.flip fun _ _ hstruct => hstruct.exact.compiled_eq

theorem fresh_meshes_verify :
    meshes.validate = .ok meshesContract ∧
      ∃ bindings tables,
        ofContract meshesContract = .ok bindings ∧
        let text := lines ⟨meshesContract, "meshes.toml", none⟩ bindings
        Target.rust.text ⟨meshesContract, "meshes.toml", none⟩ = .ok (unlines text) ∧
        rowsFor "Frame = " (bodyOf "pub enum BufferIndex" text) = ["Frame = 1,"] ∧
        bodyOf "impl crate::BoundBlock for Frame" text =
          ["const SLOT: BufferIndex = BufferIndex::Frame;"] ∧
        meshesContract.hostTables? = some tables ∧ tables.verify meshesContract = .ok () := by
  obtain ⟨bindings, tables, hbindings, htext, -, -, hslots, hblocks, -, -, htables, hindices,
    hverify, hvertices⟩ :=
    fresh_bindings_verify meshes meshesContract validate_meshes "meshes.toml" none
  let frame : Slot := ⟨"frame", .buffer, 1, .block⟩
  have hrow := (hslots frame (by decide)).declared
  have hlead : s!"{Name.pascal frame.name} = " = "Frame = " := by decide +kernel
  have hvalue : s!"{Name.pascal frame.name} = {frame.index}," = "Frame = 1," := by decide +kernel
  obtain ⟨line, slot, hbody, hline⟩ := hblocks _ List.mem_cons_self
  have hframe : slot = frame := Option.some.inj (hline.found.symm.trans (by decide))
  have hwords : line = "const SLOT: BufferIndex = BufferIndex::Frame;" := by
    rw [hline.line, hframe]
    decide +kernel
  refine ⟨validate_meshes, bindings, tables, hbindings, htext, ?_, ?_, ?_, ?_⟩
  · rw [← hlead, ← hvalue]
    exact hrow
  · rw [← hwords]
    exact hbody
  · rw [Contract.hostTables?, hbindings]
    exact htables
  · rw [HostTables.verify, hindices, hverify]
    exact hvertices

end Schema

end ShaderLayout
