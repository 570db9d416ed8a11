import ShaderLayout.Host.Tables
import ShaderLayout.Proofs.Contract.Bindings
import ShaderLayout.Proofs.Host.Members

/-!
Compiled tables of an accepted contract. They are always there, and they say
what the contract says: the indices of each class, for each block its layout
under the host rules and its slot, and for each vertex its attributes, its
stride and its slot.
-/

namespace ShaderLayout

open Bindings

/-- A compiled structure says what a contract says of a block. -/
structure HostBlock.Describes (host : HostBlock) (contract : Contract) (block : Block) : Prop where
  observed : host.observed = (block.layout contract.hostRules).observed
  slot : host.slot = block.slot
  bound : (host.slot, host.index) ∈ contract.bindingsOf .buffer

/-- A compiled structure says what a contract says of a vertex. -/
structure HostVertex.Describes (host : HostVertex) (contract : Contract) (input : VertexInput) :
    Prop where
  name : host.name = input.name
  slot : host.slot = input.slot
  bound : (host.slot, host.index) ∈ contract.bindingsOf .buffer
  stride : host.stride = input.layout.stride
  size : host.size = host.stride
  attributes : host.attributes = input.layout.attributes

/-- Compiled tables say what a contract says. -/
structure HostTables.Describes (tables : HostTables) (contract : Contract) : Prop where
  indices : tables.indices = BindingClass.all.map fun bindingClass =>
    (bindingClass, contract.bindingsOf bindingClass)
  blocks : List.Forall₂ (fun host block => host.Describes contract block) tables.blocks
    contract.blocks
  vertices : List.Forall₂ (fun host input => host.Describes contract input) tables.vertices
    contract.vertexInputs

namespace Bindings

/-! ### Members as the compiler sees them -/

theorem totalSize_eq_sum (members : List Member) :
    totalSize members = (members.map Member.size).sum := by
  induction members with
  | nil => rfl
  | cons member members ih => exact congrArg (member.size + ·) ih

theorem fieldOffsets_eq_standing (cursor : Nat) (members : List Member) :
    fieldOffsets cursor members = ((Member.standing cursor members).filterMap Member.placed?).map
      fun placed => ⟨placed.name, placed.offset⟩ := by
  induction members generalizing cursor with
  | nil => rfl
  | cons member members ih =>
      cases member with
      | field name type => exact congrArg (⟨name, cursor⟩ :: ·) (ih _)
      | padding name words => exact ih _

namespace Exact

variable {size : Nat} {placed : List PlacedField} {members : List Member}

theorem totalSize_eq (h : Exact size placed members) : totalSize members = size := by
  rw [totalSize_eq_sum, ← Nat.zero_add (List.sum _)]
  exact h.stop

theorem fieldOffsets_eq (h : Exact size placed members) :
    fieldOffsets 0 members = placed.map fun field => ⟨field.name, field.offset⟩ := by
  rw [fieldOffsets_eq_standing, h.fields]

end Exact

/-! ### Variants -/

variable {contract : Contract} {bindings : Bindings}

/-- The rendering of a slot finds its variant. -/
theorem bufferVariant?_pascal (hnamed : contract.WellNamed)
    (henums : bindings.enums = BindingClass.all.map (indexEnum contract)) {slot : Slot}
    (h : slot ∈ contract.slotsOf .buffer) :
    bindings.bufferVariant? (Name.pascal slot.name) =
      some ⟨Name.pascal slot.name, slot.index, slot.name⟩ := by
  have hfind : bindings.bufferVariant? (Name.pascal slot.name) =
      (indexEnum contract .buffer).variants.find? fun variant =>
        variant.name == Name.pascal slot.name := by
    rw [bufferVariant?, henums]
    rfl
  have hnames : ((indexEnum contract .buffer).variants.map Variant.name).Nodup := by
    rw [indexEnum, List.map_map]
    exact hnamed.nodup_pascal_slotsOf .buffer
  have hvariant : (⟨Name.pascal slot.name, slot.index, slot.name⟩ : Variant) ∈
      (indexEnum contract .buffer).variants := List.mem_map_of_mem h
  rw [hfind]
  generalize Name.pascal slot.name = rendering at hvariant ⊢
  exact find?_name_of_mem hnames hvariant

/-! ### Structures of accepted blocks and vertices -/

/-- The declaration of a block that compiles to what a contract says of it. -/
structure BlockStruct.Renders (struct : BlockStruct) (contract : Contract) (block : Block) :
    Prop where
  layout : struct.layout = block.layout contract.hostRules
  exact : Exact struct.layout.size struct.layout.placedFields struct.members
  slot : ∃ slot ∈ contract.slotsOf .buffer, slot.name = block.slot ∧
    struct.slot = Name.pascal slot.name

/-- The declaration of a vertex that compiles to what a contract says of it. -/
structure VertexStruct.Renders (struct : VertexStruct) (contract : Contract)
    (input : VertexInput) : Prop where
  layout : struct.layout = input.layout
  exact : Exact struct.layout.stride struct.layout.placedFields struct.members
  slot : ∃ slot ∈ contract.slotsOf .buffer, slot.name = input.slot ∧
    struct.slot = Name.pascal slot.name

theorem exists_blockStruct {schema : Schema} (hwell : schema.WellFormed)
    (hyields : schema.Yields contract) {block : Block} (h : block ∈ contract.blocks) :
    ∃ struct, blockStruct contract.hostRules block = pure struct ∧
      struct.Renders contract block := by
  have hblock := hwell.blocks block (hyields.blocks ▸ h)
  obtain ⟨members, hmembers, hexact⟩ := hblock.exists_members contract.hostRules
  obtain ⟨slot, hslot, hclass, hname, -⟩ := hblock.slot
  refine ⟨⟨block.layout contract.hostRules, Name.pascal block.slot, members⟩, ?_, rfl, hexact,
    slot, ?_, hname, ?_⟩
  · exact bind_eq_ok_iff.mpr ⟨members, hmembers, rfl⟩
  · exact Contract.mem_slotsOf.mpr ⟨hyields.slots.symm.subset hslot, hclass⟩
  · rw [hname]

theorem exists_vertexStruct {schema : Schema} (hwell : schema.WellFormed)
    (hyields : schema.Yields contract) {input : VertexInput} (h : input ∈ contract.vertexInputs) :
    ∃ struct, vertexStruct input = pure struct ∧ struct.Renders contract input := by
  have hinput := hwell.vertexInputs input (hyields.vertexInputs ▸ h)
  obtain ⟨members, hmembers, hexact⟩ := hinput.exists_members
  obtain ⟨slot, hslot, hclass, hname, -⟩ := hinput.slot
  refine ⟨⟨input.layout, Name.pascal input.slot, members⟩, ?_, rfl, hexact, slot, ?_, hname, ?_⟩
  · exact bind_eq_ok_iff.mpr ⟨members, hmembers, rfl⟩
  · exact Contract.mem_slotsOf.mpr ⟨hyields.slots.symm.subset hslot, hclass⟩
  · rw [hname]

theorem BlockStruct.Renders.exists_hostBlock (hnamed : contract.WellNamed)
    (henums : bindings.enums = BindingClass.all.map (indexEnum contract)) {block : Block}
    {struct : BlockStruct} (h : struct.Renders contract block) :
    ∃ host, bindings.hostBlock? struct = pure host ∧ host.Describes contract block := by
  obtain ⟨slot, hslot, hname, hvariant⟩ := h.slot
  have hfind := bufferVariant?_pascal hnamed henums hslot
  refine ⟨_, by rw [hostBlock?, hvariant, hfind]; rfl, ?_, hname, List.mem_map_of_mem hslot⟩
  show ObservedLayout.mk _ (totalSize struct.members) (fieldOffsets 0 struct.members) = _
  rw [h.exact.totalSize_eq, h.exact.fieldOffsets_eq, BlockLayout.placedFields, List.map_map,
    ← h.layout]
  rfl

theorem VertexStruct.Renders.exists_hostVertex (hnamed : contract.WellNamed)
    (henums : bindings.enums = BindingClass.all.map (indexEnum contract)) {input : VertexInput}
    {struct : VertexStruct} (h : struct.Renders contract input) :
    ∃ host, bindings.hostVertex? struct = pure host ∧ host.Describes contract input := by
  obtain ⟨slot, hslot, hname, hvariant⟩ := h.slot
  have hfind := bufferVariant?_pascal hnamed henums hslot
  refine ⟨_, by rw [hostVertex?, hvariant, hfind]; rfl, ?_, hname, List.mem_map_of_mem hslot, ?_,
    h.exact.totalSize_eq, ?_⟩
  · exact congrArg VertexLayout.name h.layout
  · exact congrArg VertexLayout.stride h.layout
  · exact congrArg VertexLayout.attributes h.layout

/-! ### All declarations -/

/-- The declarations of bindings that compile to what a contract says. -/
structure Renders (bindings : Bindings) (contract : Contract) : Prop where
  hostRules : bindings.hostRules = contract.hostRules
  enums : bindings.enums = BindingClass.all.map (indexEnum contract)
  aliases : bindings.aliases = contract.scalarSlots.map fun entry =>
    (entry.1.name, Name.pascal entry.1.name, entry.2)
  blocks : List.Forall₂ (fun block struct => struct.Renders contract block) contract.blocks
    bindings.blocks
  vertices : List.Forall₂ (fun input struct => struct.Renders contract input)
    contract.vertexInputs bindings.vertices

theorem exists_renders {schema : Schema} (h : schema.validate = .ok contract) :
    ∃ bindings, ofContract contract = .ok bindings ∧ bindings.Renders contract := by
  obtain ⟨hwell, hyields⟩ := Schema.validate_eq_ok_iff.mp h
  obtain ⟨blocks, hblocks, hblockStructs⟩ := exists_mapM_eq_pure <| List.forall₂_same.mpr
    fun block hblock => exists_blockStruct hwell hyields hblock
  obtain ⟨vertices, hvertices, hvertexStructs⟩ := exists_mapM_eq_pure <| List.forall₂_same.mpr
    fun input hinput => exists_vertexStruct hwell hyields hinput
  refine ⟨_, bind_eq_ok_iff.mpr ⟨blocks, hblocks, bind_eq_ok_iff.mpr ⟨vertices, hvertices, rfl⟩⟩,
    rfl, rfl, rfl, hblockStructs, hvertexStructs⟩

theorem Renders.exists_tables (h : bindings.Renders contract) (hnamed : contract.WellNamed) :
    ∃ tables, bindings.tables? = some tables ∧ tables.Describes contract := by
  obtain ⟨hosts, hhosts, hhostBlocks⟩ := exists_mapM_eq_pure <| h.blocks.imp
    fun block struct hstruct => hstruct.exists_hostBlock hnamed h.enums
  obtain ⟨hostInputs, hhostInputs, hhostVertices⟩ := exists_mapM_eq_pure <| h.vertices.imp
    fun input struct hstruct => hstruct.exists_hostVertex hnamed h.enums
  have hindices : bindings.enums.map (fun enum => (enum.bindingClass, enum.variants.map
      fun variant => (variant.slot, variant.index))) =
      BindingClass.all.map fun bindingClass =>
        (bindingClass, contract.bindingsOf bindingClass) := by
    rw [h.enums]
    refine List.map_map.trans (List.map_congr_left fun bindingClass _ => ?_)
    exact congrArg (bindingClass, ·) List.map_map
  refine ⟨⟨_, hosts, hostInputs⟩, ?_, hindices, hhostBlocks.flip, hhostVertices.flip⟩
  rw [tables?, hhosts, hhostInputs]
  rfl

end Bindings

/-- The bindings of an accepted contract compile to tables that say what it says. -/
theorem Schema.exists_hostTables {schema : Schema} {contract : Contract}
    (h : schema.validate = .ok contract) :
    ∃ tables, contract.hostTables? = some tables ∧ tables.Describes contract := by
  obtain ⟨bindings, hbindings, hrenders⟩ := Bindings.exists_renders h
  obtain ⟨tables, htables, hdescribes⟩ := hrenders.exists_tables (wellNamed_of_validate h)
  refine ⟨tables, ?_, hdescribes⟩
  rw [Contract.hostTables?, hbindings]
  exact htables

end ShaderLayout
