import ShaderLayout.Proofs.Shader.FrontEnd
import ShaderLayout.Proofs.Shader.Naming
import ShaderLayout.Target.Text

/-!
Verification of the module that a contract gives. If its text is read at all,
every block is found in it with the layout that was computed, so that the check
passes. Whether it is read depends on names alone, and on names that the checks
on a schema let through.
-/

namespace ShaderLayout

open Shader

/-- What a contract needs for its module to be read, beyond the checks on its schema. -/
structure Contract.Legible (contract : Contract) : Prop where
  aliases : ∀ entry ∈ contract.scalarSlots,
    (Name.pascal entry.1.name).toList.head?.any Char.isDigit = false ∧
      Name.pascal entry.1.name ∉ reservedNames
  blocks : ∀ block ∈ contract.blocks,
    block.name ∉ reservedNames ∧ ∀ field ∈ block.fields, field.name ∉ reservedNames
  vertexInputs : ∀ input ∈ contract.vertexInputs,
    input.name ∉ reservedNames ∧ ∀ attr ∈ input.attributes, attr.name ∉ reservedNames
  /-- Numbers of attributes are signed words. -/
  locations : ∀ input ∈ contract.vertexInputs, input.attributes.length ≤ 2 ^ 31
  structsApart : ∀ name ∈ contract.structNames, ∀ slot ∈ contract.slots, name ≠ slot.constantName

instance (contract : Contract) : Decidable contract.Legible :=
  decidable_of_iff (_ ∧ _ ∧ _ ∧ _ ∧ _)
    ⟨fun ⟨aliases, blocks, vertexInputs, locations, structsApart⟩ =>
        ⟨aliases, blocks, vertexInputs, locations, structsApart⟩,
      fun h => ⟨h.aliases, h.blocks, h.vertexInputs, h.locations, h.structsApart⟩⟩

namespace Shader

/-! ### Items of a contract -/

/-- Attributes are numbered from zero. -/
theorem forall_location_lt_iff {input : VertexInput} {bound : Nat} :
    (∀ attr ∈ input.layout.attributes, attr.location < bound) ↔
      input.attributes.length ≤ bound := by
  have hlocations : input.layout.attributes.map AttributeLayout.location =
      List.range' 0 input.attributes.length :=
    AttributeLayout.map_location_packAll 0 0 input.attributes
  rw [← List.forall_mem_map (f := AttributeLayout.location) (P := fun location => location < bound),
    hlocations]
  simp only [List.mem_range'_1, Nat.zero_add, Nat.zero_le, true_and]
  exact ⟨fun h => Nat.le_of_not_lt fun hlt => Nat.lt_irrefl bound (h bound hlt),
    fun h location hlt => Nat.lt_of_lt_of_le hlt h⟩

/-- An attribute as a member of the structure for its vertex. -/
def ItemMember.ofAttribute (attr : AttributeLayout) : ItemMember :=
  ⟨some attr.location, attr.name, attr.format, none⟩

theorem readable_ofBlock_iff {block : Block} :
    (Item.ofBlock (block.layout .wgsl)).Readable ↔
      Usable block.name ∧ ∀ field ∈ block.fields, Usable field.name := by
  have hmember (field : FieldLayout) : (ItemMember.ofField field).Readable ↔ Usable field.name :=
    ⟨fun h => h.name, fun h => ⟨h, nofun⟩⟩
  rw [← forall_fields_iff]
  simp only [← hmember]
  rw [← List.forall_mem_map]
  rfl

theorem readable_ofVertex_iff {input : VertexInput} :
    (Item.ofVertex input.layout).Readable ↔
      Usable input.name ∧ (∀ attr ∈ input.attributes, Usable attr.name) ∧
        input.attributes.length ≤ 2 ^ 63 := by
  have hmember (attr : AttributeLayout) : (ItemMember.ofAttribute attr).Readable ↔
      Usable attr.name ∧ attr.location < 2 ^ 63 :=
    ⟨fun h => ⟨h.name, h.location _ rfl⟩, fun h => ⟨h.1, by rintro _ ⟨⟩; exact h.2⟩⟩
  have hmembers : (∀ attr ∈ input.layout.attributes, (ItemMember.ofAttribute attr).Readable) ↔
      (∀ attr ∈ input.attributes, Usable attr.name) ∧ input.attributes.length ≤ 2 ^ 63 := by
    simp only [hmember, forall_and]
    rw [forall_attributes_iff, forall_location_lt_iff]
  rw [← hmembers, ← List.forall_mem_map]
  rfl

theorem located_ofVertex_iff {input : VertexInput} :
    (Item.ofVertex input.layout).Located ↔ input.attributes.length ≤ 2 ^ 31 := by
  have hmember (attr : AttributeLayout) :
      (ItemMember.ofAttribute attr).Located ↔ attr.location < 2 ^ 31 :=
    ⟨fun h => h _ rfl, by rintro h _ ⟨⟩; exact h⟩
  rw [← forall_location_lt_iff]
  simp only [← hmember]
  rw [← List.forall_mem_map]
  rfl

theorem located_ofBlock (block : Block) : (Item.ofBlock (block.layout .wgsl)).Located :=
  List.forall_mem_map.mpr fun _ _ => nofun

variable {contract : Contract}

/-- The items are read and laid out exactly when the contract allows it. -/
theorem legible_iff (h : contract.WellNamed) :
    contract.Legible ↔ (∀ item ∈ items contract, item.Readable) ∧
      ((items contract).map Item.name).Nodup ∧ ∀ item ∈ items contract, item.Located := by
  have haliases : (∀ entry ∈ contract.scalarSlots, Usable (Name.pascal entry.1.name)) ↔ _ :=
    forall₂_congr fun entry hentry => usable_pascal_iff (isAccepted_of_mem_scalarSlots h hentry)
  have hblocks : (∀ block ∈ contract.blocks,
      Usable block.name ∧ ∀ field ∈ block.fields, Usable field.name) ↔ _ :=
    forall₂_congr fun block hblock => and_congr (usable_iff_of_isAccepted (h.blocks block hblock).1)
      (forall₂_congr fun field hfield =>
        usable_iff_of_isAccepted ((h.blocks block hblock).2 field hfield))
  have hinputs : (∀ input ∈ contract.vertexInputs,
      Usable input.name ∧ ∀ attr ∈ input.attributes, Usable attr.name) ↔ _ :=
    forall₂_congr fun input hinput =>
      and_congr (usable_iff_of_isAccepted (h.vertexInputs input hinput).1) (forall₂_congr
        fun attr hattr => usable_iff_of_isAccepted ((h.vertexInputs input hinput).2 attr hattr))
  -- Constants can always be read, and only members of vertices have locations.
  rw [forall_mem_items_iff, forall_mem_items_iff, nodup_map_name_items h]
  simp only [readable_ofBlock_iff, readable_ofVertex_iff, located_ofVertex_iff, located_ofBlock]
  constructor
  · intro hlegible
    refine ⟨⟨?_, haliases.mpr hlegible.aliases, hblocks.mpr hlegible.blocks, ?_⟩,
      hlegible.structsApart, fun _ _ => trivial, fun _ _ => trivial, fun _ _ => trivial,
      hlegible.locations⟩
    · exact fun slot hslot => Slot.usable_constantName (h.slots slot hslot)
    · intro input hinput
      obtain ⟨hname, hattrs⟩ := hinputs.mpr hlegible.vertexInputs input hinput
      exact ⟨hname, hattrs, (hlegible.locations input hinput).trans (by decide)⟩
  · rintro ⟨⟨-, hreadable, hreadable', hreadable''⟩, hapart, -, -, -, hlocations⟩
    refine ⟨haliases.mp hreadable, hblocks.mp hreadable', hinputs.mp fun input hinput => ?_,
      hlocations, hapart⟩
    obtain ⟨hname, hattrs, -⟩ := hreadable'' input hinput
    exact ⟨hname, hattrs⟩

/-! ### The text of a module -/

/-- The layouts in the text of a module are those of its items. -/
theorem layoutsOf_lines_eq_ok_iff (generation : Generation) (h : generation.contract.WellNamed)
    (hschema : ∀ c ∈ generation.schemaName.toList, isLineEnd c = false)
    {observed : List ObservedLayout} :
    layoutsOf (Text.unlines (lines generation)) = .ok observed ↔
      generation.contract.Legible ∧
        observed = (items generation.contract).filterMap Item.layout? := by
  have hcontract : ∀ c ∈ generation.contract.name.toList, isLineEnd c = false := fun c hc =>
    isLineEnd_of_inIdentifier
      (Name.inIdentifier_of_isIdentifier (Name.isAccepted_iff.mp h.name).1 hc)
  have hread {found : List Declaration} :
      read (Text.unlines (lines generation)) = .ok found ↔ _ :=
    read_module hschema hcontract (named_of_mem_items h)
  rw [layoutsOf, FrontEnd.layouts_eq_ok_iff, legible_iff h]
  simp only [dataFrontEnd, mapError_eq_ok_iff, bind_eq_ok_iff]
  constructor
  · rintro ⟨types, ⟨found, hfound, htypes⟩, rfl⟩
    obtain ⟨hreadable, rfl⟩ := hread.mp hfound
    obtain ⟨hnames, hlocated, rfl⟩ := moduleTypes_eq_ok_iff.mp htypes
    exact ⟨⟨hreadable, hnames, hlocated⟩, filterMap_layout?_moduleType? _⟩
  · rintro ⟨⟨hreadable, hnames, hlocated⟩, rfl⟩
    exact ⟨_, ⟨_, hread.mpr ⟨hreadable, rfl⟩, moduleTypes_eq_ok_iff.mpr ⟨hnames, hlocated, rfl⟩⟩,
      (filterMap_layout?_moduleType? _).symm⟩

theorem block_of_layout? {item : Item} {layout : ObservedLayout} (h : item.layout? = some layout) :
    layout.block = item.name := by
  cases item with
  | struct remark name members =>
      cases h
      rfl
  | _ => cases h

/-- Layouts have different names where items have. -/
theorem nodup_map_block {items : List Item} (h : (items.map Item.name).Nodup) :
    ((items.filterMap Item.layout?).map ObservedLayout.block).Nodup := by
  rw [List.nodup_iff_pairwise_ne, List.pairwise_map] at h ⊢
  refine h.filterMap _ fun first second hne layout hlayout other hother => ?_
  rw [block_of_layout? hlayout, block_of_layout? hother]
  exact hne

theorem observed_mem_layouts {block : Block} (h : block ∈ contract.blocks) :
    (block.layout .wgsl).observed ∈ (items contract).filterMap Item.layout? := by
  refine List.mem_filterMap.mpr ⟨_, ?_, layout?_ofBlock block⟩
  exact List.mem_append_left _ (List.mem_append_right _ (List.mem_map_of_mem h))

/-- Blocks are found under their names, and match. -/
theorem checkBlocks_layouts (h : ((items contract).map Item.name).Nodup) :
    contract.blocks.forM (checkBlock ((items contract).filterMap Item.layout?)) = .ok () := by
  rw [forM_eq_ok_iff]
  intro block hblock
  exact checkBlock_eq_ok_iff.mpr
    (layoutNamed?_of_mem (nodup_map_block h) (observed_mem_layouts hblock))

/-- The check of the module of a contract fails only where its text is not read. -/
theorem checkShader_lines (generation : Generation) (h : generation.contract.WellNamed)
    (hschema : ∀ c ∈ generation.schemaName.toList, isLineEnd c = false) :
    let source := Text.unlines (lines generation)
    (generation.contract.Legible ∧ generation.contract.checkShader source = .ok ()) ∨
      ¬generation.contract.Legible ∧
        ∃ fault, generation.contract.checkShader source = .error (.shaderMalformed fault) := by
  intro source
  rw [Contract.checkShader, Contract.checkModule]
  rcases dataFrontEnd.layouts_cases source with ⟨observed, hobserved⟩ | ⟨fault, hfault⟩
  · obtain ⟨hlegible, rfl⟩ := (layoutsOf_lines_eq_ok_iff generation h hschema).mp hobserved
    rw [hobserved]
    exact Or.inl ⟨hlegible, checkBlocks_layouts ((legible_iff h).mp hlegible).2.1⟩
  · refine Or.inr ⟨fun hlegible => ?_, fault, by rw [hfault]; rfl⟩
    cases hfault.symm.trans ((layoutsOf_lines_eq_ok_iff generation h hschema).mpr ⟨hlegible, rfl⟩)

end Shader

namespace Schema

/-- The module of an accepted schema, if it is read, has each block with the layout that was
computed, and no check of it finds another. Line ends are those of the shader language. -/
theorem module_blocks_match (schema : Schema) (contract : Contract)
    (hvalid : schema.validate = .ok contract) (schemaName : String) (schemaText : Option String)
    (hname : ∀ c ∈ schemaName.toList, isLineEnd c = false) :
    ∃ source, Target.wgsl.text ⟨contract, schemaName, schemaText⟩ = .ok source ∧
      (∀ observed, layoutsOf source = .ok observed →
        (∀ block ∈ contract.blocks, (block.layout .wgsl).observed ∈ observed) ∧
          contract.checkShader source = .ok ()) ∧
      ∀ side cause, contract.checkShader source ≠ .error (.mismatch side cause) := by
  have hnamed := wellNamed_of_validate hvalid
  have hchecked := checkShader_lines ⟨contract, schemaName, schemaText⟩ hnamed hname
  refine ⟨_, rfl, fun observed hobserved => ?_, fun side cause hmismatch => ?_⟩
  · obtain ⟨hlegible, rfl⟩ := (layoutsOf_lines_eq_ok_iff _ hnamed hname).mp hobserved
    refine ⟨fun block hblock => observed_mem_layouts hblock, ?_⟩
    exact (hchecked.resolve_right fun hillegible => hillegible.1 hlegible).2
  · rcases hchecked with ⟨-, hok⟩ | ⟨-, fault, hfault⟩
    · cases hmismatch.symm.trans hok
    · cases hmismatch.symm.trans hfault

theorem mesh_blocks_match :
    meshes.validate = .ok meshesContract ∧
      ∃ source observed, Target.wgsl.text ⟨meshesContract, "meshes.toml", none⟩ = .ok source ∧
        layoutsOf source = .ok observed ∧
        ⟨"Frame", 80, [⟨"eye", 0⟩, ⟨"normal", 16⟩, ⟨"time", 64⟩]⟩ ∈ observed ∧
        meshesContract.checkShader source = .ok () := by
  have hname : ∀ c ∈ "meshes.toml".toList, isLineEnd c = false :=
    isLineEnd_of_any_eq_false (by decide +kernel)
  have hlegible : meshesContract.Legible := by decide +kernel
  have hlayouts := (layoutsOf_lines_eq_ok_iff ⟨meshesContract, "meshes.toml", none⟩
    (wellNamed_of_validate validate_meshes) hname).mpr ⟨hlegible, rfl⟩
  obtain ⟨source, htext, hmatch, -⟩ :=
    module_blocks_match meshes meshesContract validate_meshes "meshes.toml" none hname
  cases htext
  obtain ⟨hblocks, hok⟩ := hmatch _ hlayouts
  exact ⟨validate_meshes, _, _, rfl, hlayouts, hblocks _ (List.mem_singleton_self _), hok⟩

/-- The module of an accepted schema is read exactly when its names and numbers allow it. -/
theorem module_read_iff_legible (schema : Schema) (contract : Contract)
    (hvalid : schema.validate = .ok contract) (schemaName : String) (schemaText : Option String)
    (hname : ∀ c ∈ schemaName.toList, isLineEnd c = false) :
    ∃ source, Target.wgsl.text ⟨contract, schemaName, schemaText⟩ = .ok source ∧
      ((∃ observed, layoutsOf source = .ok observed) ↔ contract.Legible) ∧
      ((∃ fault, contract.checkShader source = .error (.shaderMalformed fault)) ↔
        ¬contract.Legible) := by
  have hnamed := wellNamed_of_validate hvalid
  have hchecked := checkShader_lines ⟨contract, schemaName, schemaText⟩ hnamed hname
  refine ⟨_, rfl, ?_, ?_⟩
  · constructor
    · rintro ⟨observed, hobserved⟩
      exact ((layoutsOf_lines_eq_ok_iff _ hnamed hname).mp hobserved).1
    · intro hlegible
      exact ⟨_, (layoutsOf_lines_eq_ok_iff _ hnamed hname).mpr ⟨hlegible, rfl⟩⟩
  · rcases hchecked with ⟨hlegible, hok⟩ | ⟨hillegible, hfault⟩
    · refine iff_of_false ?_ (not_not.mpr hlegible)
      rintro ⟨fault, hfault⟩
      cases hok.symm.trans hfault
    · exact iff_of_true hfault hillegible

/-! A schema with a word in it that only the shader language keeps. -/

def views : Schema where
  name := "Views"
  hostRules := .metal
  buffers := [.ofName "camera"]
  textures := []
  samplers := []
  blocks := [⟨"Camera", "camera", [⟨"target", .float4⟩]⟩]
  vertexInputs := []

def viewsContract : Contract where
  name := "Views"
  hostRules := .metal
  slots := [⟨"camera", .buffer, 0, .block⟩]
  blocks := views.blocks
  vertexInputs := []

theorem validate_views : views.validate = .ok viewsContract := by
  refine validate_eq_ok_iff.mpr ⟨by decide +kernel, ?_⟩
  exact ⟨rfl, rfl, by decide, by decide, rfl, rfl⟩

theorem views_module_refused :
    views.validate = .ok viewsContract ∧
      ∃ source, Target.wgsl.text ⟨viewsContract, "views.toml", none⟩ = .ok source ∧
        ∃ fault, viewsContract.checkShader source = .error (.shaderMalformed fault) := by
  obtain ⟨source, htext, -, hrefused⟩ := module_read_iff_legible views viewsContract validate_views
    "views.toml" none (isLineEnd_of_any_eq_false (by decide +kernel))
  exact ⟨validate_views, source, htext, hrefused.mpr (by decide +kernel)⟩

end Schema

end ShaderLayout
