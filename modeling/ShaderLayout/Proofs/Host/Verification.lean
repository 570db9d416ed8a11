import ShaderLayout.Host.Verify
import ShaderLayout.Proofs.Host.Tables
import ShaderLayout.Proofs.Layout.Comparison

/-!
Verification of compiled tables against the contract of another schema. Bindings
and blocks are held against all that was compiled: they pass exactly where that
contract says the same of them. Vertices are held against the places of their
attributes alone.
-/

namespace ShaderLayout

namespace Contract

variable {contract : Contract}

theorem WellNamed.block?_eq_some_iff (h : contract.WellNamed) {name : String} {block : Block} :
    contract.block? name = some block ↔ block ∈ contract.blocks ∧ block.name = name := by
  constructor
  · intro hfind
    exact ⟨List.mem_of_find?_eq_some hfind, by simpa using List.find?_some hfind⟩
  · rintro ⟨hblock, rfl⟩
    exact find?_name_of_mem (List.nodup_append.mp h.structs).1 hblock

theorem WellNamed.vertexInput?_eq_some_iff (h : contract.WellNamed) {name : String}
    {input : VertexInput} :
    contract.vertexInput? name = some input ↔
      input ∈ contract.vertexInputs ∧ input.name = name := by
  constructor
  · intro hfind
    exact ⟨List.mem_of_find?_eq_some hfind, by simpa using List.find?_some hfind⟩
  · rintro ⟨hinput, rfl⟩
    exact find?_name_of_mem (List.nodup_append.mp h.structs).2.1 hinput

end Contract

/-! ### Bindings and blocks -/

/-- A contract has the block that a structure was compiled for: its layout is the compiled one
and it lies in the compiled slot. -/
def HostBlock.Matches (host : HostBlock) (contract : Contract) : Prop :=
  ∃ block ∈ contract.blocks, (block.layout contract.hostRules).observed = host.observed ∧
    block.slot = host.slot

/-- A contract has the compiled bindings and no others, and all compiled blocks. -/
structure HostTables.Matches (tables : HostTables) (contract : Contract) : Prop where
  indices : ∀ entry ∈ tables.indices, ∀ binding,
    binding ∈ contract.bindingsOf entry.1 ↔ binding ∈ entry.2
  blocks : ∀ host ∈ tables.blocks, host.Matches contract

section

variable {contract own : Contract}

theorem HostBlock.verify_eq_ok_iff (hnamed : contract.WellNamed) {host : HostBlock} :
    host.verify contract = .ok () ↔
      host.Matches contract ∧ (host.slot, host.index) ∈ contract.bindingsOf .buffer := by
  have hfound {block : Block} (hblock : block ∈ contract.blocks)
      (hlayout : (block.layout contract.hostRules).observed = host.observed) :
      contract.block? host.observed.block = some block :=
    hnamed.block?_eq_some_iff.mpr ⟨hblock, congrArg ObservedLayout.block hlayout⟩
  rw [verify, hnamed.mem_bindingsOf_iff]
  cases hfind : contract.block? host.observed.block with
  | none =>
      refine iff_of_false nofun ?_
      rintro ⟨⟨block, hblock, hlayout, -⟩, -⟩
      exact nomatch hfind.symm.trans (hfound hblock hlayout)
  | some block =>
      obtain ⟨hblock, hname⟩ := hnamed.block?_eq_some_iff.mp hfind
      simp only [bind_eq_ok_iff, mapError_eq_ok_iff]
      constructor
      · rintro ⟨_, hcompare, hslot⟩
        have hlayout := (BlockLayout.compare_eq_ok_iff_observed hname).mp hcompare
        split at hslot
        · cases hslot
        next slot hslot? =>
          obtain ⟨-, hslotName⟩ := hnamed.slot?_eq_some_iff.mp hslot?
          split at hslot
          · cases hslot
          next hagree =>
            rw [not_or, not_not, not_not] at hagree
            have heq := hslotName.symm.trans hagree.2
            exact ⟨⟨block, hblock, hlayout, heq⟩, slot, heq ▸ hslot?, hagree.1⟩
      · rintro ⟨⟨other, hother, hlayout, hslot⟩, slot, hslot?, hindex⟩
        cases Option.some.inj (hfind.symm.trans (hfound hother hlayout))
        refine ⟨(), (BlockLayout.compare_eq_ok_iff_observed hname).mpr hlayout, ?_⟩
        have hslotName := (hnamed.slot?_eq_some_iff.mp hslot?).2
        rw [hslot, hslot?]
        exact if_neg (by rw [not_or, not_not, not_not]; exact ⟨hindex, hslotName⟩)

namespace HostTables

variable {tables : HostTables}

theorem Describes.verifyIndices_eq_ok_iff (h : tables.Describes own) (hown : own.WellNamed)
    (hnamed : contract.WellNamed) :
    tables.verifyIndices contract = .ok () ↔ ∀ entry ∈ tables.indices, ∀ binding,
      binding ∈ contract.bindingsOf entry.1 ↔ binding ∈ entry.2 := by
  rw [verifyIndices, forM_eq_ok_iff, h.indices, List.forall_mem_map, List.forall_mem_map]
  refine forall₂_congr fun bindingClass _ => hnamed.checkBindings_eq_ok_iff_of_nodup ?_
  rw [Contract.map_fst_bindingsOf]
  exact hown.nodup_name_slotsOf bindingClass

/-- Where bindings match, that a block is in the compiled slot settles its index. -/
theorem Describes.verifyBlocks_eq_ok_iff (h : tables.Describes own) (hnamed : contract.WellNamed)
    (hbuffers : ∀ binding,
      binding ∈ contract.bindingsOf .buffer ↔ binding ∈ own.bindingsOf .buffer) :
    tables.verifyBlocks contract = .ok () ↔ ∀ host ∈ tables.blocks, host.Matches contract := by
  have hbound : ∀ host ∈ tables.blocks, (host.slot, host.index) ∈ own.bindingsOf .buffer :=
    forall_mem_of_forall₂ h.blocks fun _ _ hdescribes => hdescribes.bound
  rw [verifyBlocks, forM_eq_ok_iff]
  refine forall₂_congr fun host hhost => ?_
  rw [HostBlock.verify_eq_ok_iff hnamed]
  exact and_iff_left ((hbuffers _).mpr (hbound host hhost))

theorem Describes.indices_match_iff (h : tables.Describes own) :
    (∀ entry ∈ tables.indices, ∀ binding,
      binding ∈ contract.bindingsOf entry.1 ↔ binding ∈ entry.2) ↔
      ∀ bindingClass binding,
        binding ∈ contract.bindingsOf bindingClass ↔ binding ∈ own.bindingsOf bindingClass := by
  rw [h.indices, List.forall_mem_map]
  exact ⟨fun hall bindingClass => hall bindingClass bindingClass.mem_all, fun hall c _ => hall c⟩

theorem Describes.verify_eq_ok_iff (h : tables.Describes own) (hown : own.WellNamed)
    (hnamed : contract.WellNamed) :
    tables.verifyIndices contract = .ok () ∧ tables.verifyBlocks contract = .ok () ↔
      tables.Matches contract := by
  rw [h.verifyIndices_eq_ok_iff hown hnamed]
  constructor
  -- Both ways bindings come first: the check of a block asks for its index, which they settle.
  · rintro ⟨hindices, hblocks⟩
    have hbuffers := h.indices_match_iff.mp hindices .buffer
    exact ⟨hindices, (h.verifyBlocks_eq_ok_iff hnamed hbuffers).mp hblocks⟩
  · rintro ⟨hindices, hblocks⟩
    have hbuffers := h.indices_match_iff.mp hindices .buffer
    exact ⟨hindices, (h.verifyBlocks_eq_ok_iff hnamed hbuffers).mpr hblocks⟩

theorem Describes.blocks_match_iff (h : tables.Describes own) :
    (∀ host ∈ tables.blocks, host.Matches contract) ↔
      ∀ block ∈ own.blocks, ∃ other ∈ contract.blocks,
        (other.layout contract.hostRules).observed = (block.layout own.hostRules).observed ∧
        other.slot = block.slot := by
  refine forall_mem_iff_of_forall₂ h.blocks fun host block hdescribes => ?_
  rw [HostBlock.Matches, hdescribes.observed, hdescribes.slot]

end HostTables

/-- Layouts that a compiler shows alike have fields of the same names in the same order. -/
theorem Block.map_name_eq_of_observed {block other : Block} {rules otherRules : LayoutRules}
    (h : (other.layout otherRules).observed = (block.layout rules).observed) :
    other.name = block.name ∧ other.fields.map (·.name) = block.fields.map (·.name) := by
  refine ⟨congrArg ObservedLayout.block h, ?_⟩
  rw [← block.map_name_observed rules, ← other.map_name_observed otherRules, h]

/-- The checks of bindings and blocks pass exactly on contracts that have the compiled bindings, no
others, and every compiled block at the compiled offsets in the compiled slot. -/
theorem Schema.host_blocks_pass_iff (program schema : Schema) (own contract : Contract)
    (hown : program.validate = .ok own) (hvalid : schema.validate = .ok contract) :
    ∃ tables, own.hostTables? = some tables ∧ tables.Describes own ∧
      (tables.verifyIndices contract = .ok () ∧ tables.verifyBlocks contract = .ok () ↔
        tables.Matches contract) ∧
      (tables.Matches contract ↔
        (∀ bindingClass, contract.bindingsOf bindingClass = own.bindingsOf bindingClass) ∧
        ∀ block ∈ own.blocks, ∃ other ∈ contract.blocks, other.name = block.name ∧
          other.fields.map (·.name) = block.fields.map (·.name) ∧
          (other.layout contract.hostRules).observed = (block.layout own.hostRules).observed ∧
          other.slot = block.slot) := by
  obtain ⟨tables, htables, hdescribes⟩ := exists_hostTables hown
  have hnamedOwn := wellNamed_of_validate hown
  have hnamed := wellNamed_of_validate hvalid
  refine ⟨tables, htables, hdescribes, hdescribes.verify_eq_ok_iff hnamedOwn hnamed, ?_⟩
  constructor
  · rintro ⟨hindices, hblocks⟩
    refine ⟨fun bindingClass => ?_, fun block hblock => ?_⟩
    · have hyields := (validate_eq_ok_iff.mp hvalid).2
      exact hyields.bindingsOf_eq (validate_eq_ok_iff.mp hown).2 hnamed hnamedOwn
        (hdescribes.indices_match_iff.mp hindices bindingClass)
    · obtain ⟨other, hother, hlayout, hslot⟩ := hdescribes.blocks_match_iff.mp hblocks block hblock
      obtain ⟨hname, hfields⟩ := Block.map_name_eq_of_observed hlayout
      exact ⟨other, hother, hname, hfields, hlayout, hslot⟩
  · rintro ⟨hbindings, hblocks⟩
    refine ⟨hdescribes.indices_match_iff.mpr fun bindingClass binding => ?_, ?_⟩
    · rw [hbindings]
    · refine hdescribes.blocks_match_iff.mpr fun block hblock => ?_
      obtain ⟨other, hother, -, -, hlayout, hslot⟩ := hblocks block hblock
      exact ⟨other, hother, hlayout, hslot⟩

namespace Schema

/-- The meshes for a host with the rules of the shaders. Buffers are declared in another order, and
vertices lie in the slot of the light count, with other attributes of the same sizes. -/
def movedMeshes : Schema where
  name := "Moved"
  hostRules := .wgsl
  buffers := [{ name := "light_count", index := some 5, scalar := none, isVertex := true },
    .ofName "frame",
    { name := "vertices", index := some 0, scalar := none, isVertex := false }]
  textures := [.ofName "atlas"]
  samplers := []
  blocks := meshes.blocks
  vertexInputs := [⟨"Corner", "light_count", some 24, [⟨"normal", .float3⟩, ⟨"joints", .uint2⟩]⟩]

def movedContract : Contract where
  name := "Moved"
  hostRules := .wgsl
  slots := [⟨"vertices", .buffer, 0, .block⟩, ⟨"frame", .buffer, 1, .block⟩,
    ⟨"light_count", .buffer, 5, .vertex⟩, ⟨"atlas", .texture, 0, .resource⟩]
  blocks := movedMeshes.blocks
  vertexInputs := movedMeshes.vertexInputs

theorem validate_movedMeshes : movedMeshes.validate = .ok movedContract := by
  refine validate_eq_ok_iff.mpr ⟨by decide +kernel, ?_⟩
  exact ⟨rfl, rfl, by decide, by decide, rfl, rfl⟩

theorem bindingsOf_movedContract (bindingClass : BindingClass) :
    movedContract.bindingsOf bindingClass = meshesContract.bindingsOf bindingClass := by
  cases bindingClass <;> decide

theorem moved_blocks_pass :
    meshes.validate = .ok meshesContract ∧ movedMeshes.validate = .ok movedContract ∧
      ∃ tables, meshesContract.hostTables? = some tables ∧ tables.blocks.length = 1 ∧
        tables.verifyIndices movedContract = .ok () ∧
        tables.verifyBlocks movedContract = .ok () := by
  obtain ⟨tables, htables, hdescribes, hverify, hmatches⟩ :=
    host_blocks_pass_iff meshes movedMeshes meshesContract movedContract validate_meshes
      validate_movedMeshes
  refine ⟨validate_meshes, validate_movedMeshes, tables, htables, hdescribes.blocks.length_eq,
    hverify.mpr (hmatches.mpr ⟨bindingsOf_movedContract, ?_⟩)⟩
  decide +kernel

end Schema

/-! ### Vertices -/

/-- Where an attribute is found: its location and its offset. -/
def AttributeLayout.position (attr : AttributeLayout) : Nat × Nat :=
  (attr.location, attr.offset)

namespace HostVertex

theorem compareAttributes_eq_ok_iff {name : String} {expecteds founds : List AttributeLayout}
    (h : expecteds.length = founds.length) :
    compareAttributes name expecteds founds = .ok () ↔
      expecteds.map AttributeLayout.position = founds.map AttributeLayout.position := by
  induction expecteds generalizing founds with
  | nil =>
      rw [List.eq_nil_of_length_eq_zero h.symm]
      exact iff_of_true rfl rfl
  | cons expected expecteds ih =>
      cases founds with
      | nil => cases h
      | cons found founds =>
          simp only [compareAttributes, List.map_cons, List.cons.injEq, AttributeLayout.position,
            Prod.mk.injEq]
          split
          · next hdiffer =>
              refine iff_of_false nofun ?_
              rintro ⟨⟨hlocation, hoffset⟩, -⟩
              exact hdiffer.elim (absurd hoffset) (absurd hlocation)
          · next hagree =>
              rw [not_or, not_not, not_not] at hagree
              rw [ih (Nat.succ_inj.mp h), and_iff_right hagree.symm]

/-- A vertex passes when its stride is right and its attributes are at their places. -/
theorem compare_eq_ok_iff {host : HostVertex} {layout : VertexLayout} :
    host.compare layout = .ok () ↔
      (layout.stride = host.stride ∧ host.size = host.stride) ∧
        layout.attributes.map AttributeLayout.position =
          host.attributes.map AttributeLayout.position := by
  rw [compare, guard_eq_ok_iff, guard_eq_ok_iff, not_or, not_not, not_not, not_not]
  refine and_congr_right fun _ => ?_
  constructor
  · rintro ⟨hlength, hattributes⟩
    exact (compareAttributes_eq_ok_iff hlength).mp hattributes
  · intro hpositions
    have hlength : layout.attributes.length = host.attributes.length := by
      simpa using congrArg List.length hpositions
    exact ⟨hlength, (compareAttributes_eq_ok_iff hlength).mpr hpositions⟩

theorem verify_eq_ok_iff (hnamed : contract.WellNamed) {host : HostVertex} :
    host.verify contract = .ok () ↔ ∃ input ∈ contract.vertexInputs, input.name = host.name ∧
      (input.layout.stride = host.stride ∧ host.size = host.stride) ∧
        input.layout.attributes.map AttributeLayout.position =
          host.attributes.map AttributeLayout.position := by
  rw [verify]
  cases hfind : contract.vertexInput? host.name with
  | none =>
      refine iff_of_false nofun ?_
      rintro ⟨input, hinput, hname, -⟩
      exact nomatch hfind.symm.trans (hnamed.vertexInput?_eq_some_iff.mpr ⟨hinput, hname⟩)
  | some input =>
      obtain ⟨hinput, hname⟩ := hnamed.vertexInput?_eq_some_iff.mp hfind
      rw [mapError_eq_ok_iff, compare_eq_ok_iff]
      constructor
      · intro hcompare
        exact ⟨input, hinput, hname, hcompare⟩
      · rintro ⟨other, hother, hname, hcompare⟩
        have hsame := hnamed.vertexInput?_eq_some_iff.mpr ⟨hother, hname⟩
        cases hfind.symm.trans hsame
        exact hcompare

end HostVertex

/-- The sizes of all attributes that have another one behind them. -/
def VertexInput.leadingSizes (input : VertexInput) : List Nat :=
  (input.attributes.map fun attr => attr.format.packedSize).dropLast

namespace AttributeLayout

/-- The place of an attribute tells the sizes of those before it, and nothing else. -/
theorem map_position_packAll_eq_iff (location : Nat) {offset other : Nat}
    {attr found : Attribute} {attrs founds : List Attribute} :
    (packAll location offset (attr :: attrs)).map position =
        (packAll location other (found :: founds)).map position ↔
      offset = other ∧ attrs.length = founds.length ∧
        ((attr :: attrs).map fun attr => attr.format.packedSize).dropLast =
          ((found :: founds).map fun attr => attr.format.packedSize).dropLast := by
  induction attrs generalizing location offset other attr found founds with
  | nil =>
      cases founds with
      | nil => simp [packAll, position]
      | cons next founds => simp [packAll]
  | cons second attrs ih =>
      cases founds with
      | nil => simp [packAll]
      | cons next founds =>
          have hpack (offset : Nat) (attr : Attribute) (attrs : List Attribute) :
              (packAll location offset (attr :: attrs)).map position = (location, offset) ::
                (packAll (location + 1) (offset + attr.format.packedSize) attrs).map position := rfl
          rw [hpack, hpack, List.cons.injEq, ih]
          simp only [Prod.mk.injEq, true_and, List.length_cons, List.map_cons,
            List.dropLast_cons_cons, List.cons.injEq, Nat.add_right_cancel_iff]
          constructor
          · rintro ⟨rfl, hsize, hlength, hrest⟩
            exact ⟨rfl, hlength, Nat.add_left_cancel hsize, hrest⟩
          · rintro ⟨rfl, hlength, hsize, hrest⟩
            exact ⟨rfl, congrArg (offset + ·) hsize, hlength, hrest⟩

end AttributeLayout

theorem VertexInput.map_position_layout_eq_iff {input other : VertexInput} :
    input.layout.attributes.map AttributeLayout.position =
        other.layout.attributes.map AttributeLayout.position ↔
      input.attributes.length = other.attributes.length ∧
        input.leadingSizes = other.leadingSizes := by
  obtain ⟨_, _, _, attrs⟩ := input
  obtain ⟨_, _, _, others⟩ := other
  cases attrs with
  | nil => cases others <;> simp [layout, leadingSizes, AttributeLayout.packAll]
  | cons attr attrs =>
      cases others with
      | nil => simp [layout, AttributeLayout.packAll]
      | cons found others =>
          refine (AttributeLayout.map_position_packAll_eq_iff 0).trans ?_
          simp [leadingSizes]

theorem HostTables.Describes.verifyVertices_eq_ok_iff {tables : HostTables}
    (h : tables.Describes own) (hnamed : contract.WellNamed) :
    tables.verifyVertices contract = .ok () ↔
      ∀ input ∈ own.vertexInputs, ∃ other ∈ contract.vertexInputs, other.name = input.name ∧
        other.layout.stride = input.layout.stride ∧
        other.attributes.length = input.attributes.length ∧
        other.leadingSizes = input.leadingSizes := by
  rw [verifyVertices, forM_eq_ok_iff]
  refine forall_mem_iff_of_forall₂ h.vertices fun host input hdescribes => ?_
  rw [HostVertex.verify_eq_ok_iff hnamed, hdescribes.name, hdescribes.size, hdescribes.stride,
    hdescribes.attributes]
  simp only [and_true, VertexInput.map_position_layout_eq_iff]

/-- The check of vertices passes exactly on contracts that have a vertex of each compiled name with
the compiled stride, as many attributes, and the compiled sizes of all but the last. Names of
attributes, formats of one size and slots may be others. -/
theorem Schema.host_vertices_pass_iff (program schema : Schema) (own contract : Contract)
    (hown : program.validate = .ok own) (hvalid : schema.validate = .ok contract) :
    ∃ tables, own.hostTables? = some tables ∧ tables.Describes own ∧
      (tables.verifyVertices contract = .ok () ↔
        ∀ input ∈ own.vertexInputs, ∃ other ∈ contract.vertexInputs, other.name = input.name ∧
          other.layout.stride = input.layout.stride ∧
          other.attributes.length = input.attributes.length ∧
          other.leadingSizes = input.leadingSizes) := by
  obtain ⟨tables, htables, hdescribes⟩ := exists_hostTables hown
  exact ⟨tables, htables, hdescribes,
    hdescribes.verifyVertices_eq_ok_iff (wellNamed_of_validate hvalid)⟩

end

/-- Vertices with other attributes in another slot pass, and with them everything. -/
theorem Schema.moved_vertices_pass :
    meshes.validate = .ok meshesContract ∧ movedMeshes.validate = .ok movedContract ∧
      (∃ tables, meshesContract.hostTables? = some tables ∧
        tables.verify movedContract = .ok ()) ∧
      ∀ input ∈ meshesContract.vertexInputs, ∀ moved ∈ movedContract.vertexInputs,
        moved.name = input.name ∧ moved.slot ≠ input.slot ∧
          moved.attributes.map (·.name) ≠ input.attributes.map (·.name) ∧
          moved.attributes.map (·.format) ≠ input.attributes.map (·.format) := by
  obtain ⟨tables, htables, hdescribes, hvertices⟩ := host_vertices_pass_iff meshes movedMeshes
    meshesContract movedContract validate_meshes validate_movedMeshes
  have hmatches : tables.Matches movedContract :=
    ⟨hdescribes.indices_match_iff.mpr fun bindingClass _ => by rw [bindingsOf_movedContract],
      hdescribes.blocks_match_iff.mpr (by decide +kernel)⟩
  obtain ⟨hindices, hblocks⟩ := (hdescribes.verify_eq_ok_iff (wellNamed_of_validate validate_meshes)
    (wellNamed_of_validate validate_movedMeshes)).mpr hmatches
  refine ⟨validate_meshes, validate_movedMeshes, ⟨tables, htables, ?_⟩, by decide⟩
  rw [HostTables.verify, hindices, hblocks]
  exact hvertices.mpr (by decide)

end ShaderLayout
