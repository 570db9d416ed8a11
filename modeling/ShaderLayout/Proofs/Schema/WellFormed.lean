import ShaderLayout.Proofs.Schema.Members

/-!
Which schemas are accepted, and as what. A schema is well formed when its names
are accepted and do not collide in any rendering, its slots suit their classes,
its blocks and vertex inputs find slots of their kind, and no two generated types
share a name. Validation accepts exactly these schemas; the contract has all that
was declared, the slots by class and index and all else in the order written.
-/

namespace ShaderLayout

namespace Schema

/-- The type names that blocks and vertex inputs need. -/
def typeNames (schema : Schema) : List String :=
  schema.blocks.map (·.name) ++ schema.vertexInputs.flatMap VertexInput.typeNames

structure WellFormed (schema : Schema) : Prop where
  name : Name.isAccepted schema.name
  slots : ∀ bindingClass, schema.SlotsWellFormed bindingClass
  blocks : ∀ block ∈ schema.blocks, block.WellFormed schema.declared
  vertexInputs : ∀ input ∈ schema.vertexInputs, input.WellFormed schema.declared
  typeNames : schema.typeNames.Nodup
  apartFromEnums : ∀ name ∈ schema.typeNames, ∀ bindingClass : BindingClass,
    name ≠ bindingClass.enumName
  apartFromHostTypes : ∀ name ∈ schema.typeNames, ∀ type : FieldType, name ≠ Name.pascal type.name
  apartFromAliases : ∀ name ∈ schema.typeNames, ∀ slot ∈ schema.declared, ∀ type,
    slot.kind = .scalar type → name ≠ Name.pascal slot.name

/-- A contract that has all of a schema and nothing else. -/
structure Yields (schema : Schema) (contract : Contract) : Prop where
  name : contract.name = schema.name
  hostRules : contract.hostRules = schema.hostRules
  slots : contract.slots.Perm schema.declared
  ordered : contract.slots.Pairwise Slot.Before
  blocks : contract.blocks = schema.blocks
  vertexInputs : contract.vertexInputs = schema.vertexInputs

variable {schema : Schema} {contract : Contract}

theorem uniqueBuffers_declared (h : schema.SlotsWellFormed .buffer) :
    UniqueBuffers schema.declared := by
  have hnames : ((schema.declaredIn .buffer).map (·.name)).Nodup := by
    rw [declaredIn, Slot.map_name_declaredFrom]
    exact nodup_map_of_renderings h.renderings
  have hbuffers {slot : Slot} (hslot : slot ∈ schema.declared)
      (hclass : slot.bindingClass = .buffer) : slot ∈ schema.declaredIn .buffer := by
    obtain ⟨bindingClass, -, hmem⟩ := List.mem_flatMap.mp hslot
    rwa [← hclass, bindingClass_of_mem_declaredIn hmem]
  intro first hfirst second hsecond hclass hclass' hname
  exact List.inj_on_of_nodup_map hnames (hbuffers hfirst hclass) (hbuffers hsecond hclass') hname

theorem UniqueBuffers.of_subset {slots others : List Slot} (hslots : slots ⊆ others)
    (h : UniqueBuffers others) : UniqueBuffers slots :=
  fun first hfirst second hsecond => h first (hslots hfirst) second (hslots hsecond)

/-- Blocks and vertex inputs pass the checks of members together. -/
theorem checkMembers_eq_ok_iff {slots : List Slot} (hslots : UniqueBuffers slots) :
    (∃ taken rest, checkBlocks slots (takenTypeNames slots) schema.blocks = .ok taken ∧
        checkVertexInputs slots taken schema.vertexInputs = .ok rest) ↔
      (∀ block ∈ schema.blocks, block.WellFormed slots) ∧
      (∀ input ∈ schema.vertexInputs, input.WellFormed slots) ∧
      schema.typeNames.Nodup ∧ ∀ name ∈ schema.typeNames, name ∉ takenTypeNames slots := by
  have hclaims : (∃ rest, schema.typeNames.foldlM claimTypeName (takenTypeNames slots) = .ok rest) ↔
      schema.typeNames.Nodup ∧ ∀ name ∈ schema.typeNames, name ∉ takenTypeNames slots := by
    simp only [claimTypeNames_eq_ok_iff]
    exact ⟨fun ⟨_, hnodup, hfree, _⟩ => ⟨hnodup, hfree⟩,
      fun ⟨hnodup, hfree⟩ => ⟨_, hnodup, hfree, rfl⟩⟩
  rw [← hclaims, Schema.typeNames, List.foldlM_append]
  simp only [checkBlocks_eq_ok_iff, checkVertexInputs_eq_ok_iff, Block.check_eq_ok_iff hslots,
    VertexInput.check_eq_ok_iff hslots, bind_eq_ok_iff]
  constructor
  · rintro ⟨taken, rest, ⟨hnames, hblocks⟩, hrest, hinputs⟩
    exact ⟨hblocks, hinputs, rest, taken, hnames, hrest⟩
  · rintro ⟨hblocks, hinputs, rest, taken, hnames, hrest⟩
    exact ⟨taken, rest, ⟨hnames, hblocks⟩, hrest, hinputs⟩

theorem notMem_takenTypeNames_iff {slots : List Slot} {names : List String} :
    (∀ name ∈ names, name ∉ takenTypeNames slots) ↔
      (∀ name ∈ names, ∀ bindingClass : BindingClass, name ≠ bindingClass.enumName) ∧
      (∀ name ∈ names, ∀ type : FieldType, name ≠ Name.pascal type.name) ∧
      ∀ name ∈ names, ∀ slot ∈ slots, ∀ type, slot.kind = .scalar type →
        name ≠ Name.pascal slot.name := by
  simp only [mem_takenTypeNames, not_or, not_exists, not_and, forall_and, ne_eq]

instance (schema : Schema) : Decidable schema.WellFormed :=
  decidable_of_iff (Name.isAccepted schema.name ∧
      (∀ bindingClass ∈ BindingClass.all, schema.SlotsWellFormed bindingClass) ∧
      (∀ block ∈ schema.blocks, block.WellFormed schema.declared) ∧
      (∀ input ∈ schema.vertexInputs, input.WellFormed schema.declared) ∧
      schema.typeNames.Nodup ∧ ∀ name ∈ schema.typeNames, name ∉ takenTypeNames schema.declared)
    ⟨fun ⟨name, slots, blocks, vertexInputs, typeNames, free⟩ =>
        let ⟨enums, hostTypes, aliases⟩ := notMem_takenTypeNames_iff.mp free
        ⟨name, fun bindingClass => slots bindingClass bindingClass.mem_all, blocks, vertexInputs,
          typeNames, enums, hostTypes, aliases⟩,
      fun h => ⟨h.name, fun bindingClass _ => h.slots bindingClass, h.blocks, h.vertexInputs,
        h.typeNames, notMem_takenTypeNames_iff.mpr
          ⟨h.apartFromEnums, h.apartFromHostTypes, h.apartFromAliases⟩⟩⟩

theorem validate_eq_ok_iff :
    schema.validate = .ok contract ↔ schema.WellFormed ∧ schema.Yields contract := by
  -- The checks look at the slots in order, well-formedness at the slots as declared.
  have hsubset {slots : List Slot} (h : slots.Perm schema.declared) :
      slots ⊆ schema.declared ∧ schema.declared ⊆ slots := ⟨h.subset, h.symm.subset⟩
  rw [validate]
  simp only [bind_eq_ok_iff, slots_eq_ok_iff]
  constructor
  · rintro ⟨_, hname, slots, ⟨hclasses, hslots⟩, taken, hblocks, rest, hinputs, hcontract⟩
    cases hcontract
    obtain ⟨hperm, hordered⟩ := (eq_mergeSort_iff hclasses).mp hslots
    obtain ⟨hsub, hsup⟩ := hsubset hperm
    have hunique := UniqueBuffers.of_subset hsub (uniqueBuffers_declared (hclasses .buffer))
    obtain ⟨hblocks, hinputs, hnodup, hfree⟩ :=
      (checkMembers_eq_ok_iff hunique).mp ⟨taken, rest, hblocks, hinputs⟩
    obtain ⟨henums, hhosts, haliases⟩ := notMem_takenTypeNames_iff.mp hfree
    refine ⟨⟨checkName_eq_ok_iff.mp hname, hclasses, ?_, ?_, hnodup, henums, hhosts, ?_⟩,
      ⟨rfl, rfl, hperm, hordered, rfl, rfl⟩⟩
    · exact fun block hblock => (hblocks block hblock).of_subset hsub
    · exact fun input hinput => (hinputs input hinput).of_subset hsub
    · exact fun typeName hmem slot hslot => haliases typeName hmem slot (hsup hslot)
  · rintro ⟨⟨hname, hclasses, hblocks, hinputs, hnodup, henums, hhosts, haliases⟩, hyields⟩
    obtain ⟨hsub, hsup⟩ := hsubset hyields.slots
    have hunique := UniqueBuffers.of_subset hsub (uniqueBuffers_declared (hclasses .buffer))
    obtain ⟨taken, rest, htaken, hrest⟩ := (checkMembers_eq_ok_iff hunique).mpr
      ⟨fun block hblock => (hblocks block hblock).of_subset hsup,
        fun input hinput => (hinputs input hinput).of_subset hsup, hnodup,
        notMem_takenTypeNames_iff.mpr ⟨henums, hhosts, fun typeName hmem slot hslot =>
          haliases typeName hmem slot (hsub hslot)⟩⟩
    refine ⟨(), checkName_eq_ok_iff.mpr hname, contract.slots, ⟨hclasses, ?_⟩, taken, htaken, rest,
      hrest, ?_⟩
    · exact (eq_mergeSort_iff hclasses).mpr ⟨hyields.slots, hyields.ordered⟩
    · obtain ⟨hname, hrules, -, -, hblocks, hinputs⟩ := hyields
      obtain ⟨_, _, _, _, _⟩ := contract
      cases hname
      cases hrules
      cases hblocks
      cases hinputs
      rfl

theorem WellFormed.exists_yields (h : schema.WellFormed) : ∃ contract, schema.Yields contract := by
  obtain ⟨hperm, hordered⟩ := (eq_mergeSort_iff h.slots).mp rfl
  exact ⟨⟨schema.name, schema.hostRules, _, schema.blocks, schema.vertexInputs⟩,
    ⟨rfl, rfl, hperm, hordered, rfl, rfl⟩⟩

/-- No two fields of a block of a contract share a name. -/
theorem nodup_of_validate (h : schema.validate = .ok contract) {block : Block}
    (hblock : block ∈ contract.blocks) : (block.fields.map (·.name)).Nodup := by
  obtain ⟨hwell, hyields⟩ := validate_eq_ok_iff.mp h
  exact nodup_map_of_renderings (hwell.blocks block (hyields.blocks ▸ hblock)).renderings

end Schema

/-! ### Schemas that are accepted -/

/-- A block with gaps in front of a vector, within a matrix and at the end. -/
def Block.surface : Block where
  name := "Surface"
  slot := "surfaces"
  fields := [⟨"gloss", .float⟩, ⟨"normal", .float3⟩, ⟨"frame", .float3x3⟩, ⟨"scale", .float2⟩]

namespace Schema

def surfaces : Schema where
  name := "Surfaces"
  hostRules := .metal
  buffers := [.ofName "surfaces"]
  textures := []
  samplers := []
  blocks := [.surface]
  vertexInputs := []

def surfacesContract : Contract where
  name := "Surfaces"
  hostRules := .metal
  slots := [⟨"surfaces", .buffer, 0, .block⟩]
  blocks := [.surface]
  vertexInputs := []

theorem validate_surfaces : surfaces.validate = .ok surfacesContract := by
  refine validate_eq_ok_iff.mpr ⟨by decide +kernel, ?_⟩
  exact ⟨rfl, rfl, by decide, by decide, rfl, rfl⟩

/-- A schema with vertices, a scalar and an index of its own. -/
def meshes : Schema where
  name := "Meshes"
  hostRules := .metal
  buffers := [{ name := "vertices", index := none, scalar := none, isVertex := true },
    .ofName "frame",
    { name := "light_count", index := some 5, scalar := some .uint, isVertex := false }]
  textures := [.ofName "atlas"]
  samplers := []
  blocks := [⟨"Frame", "frame", [⟨"eye", .float3⟩, ⟨"normal", .float3x3⟩, ⟨"time", .float⟩]⟩]
  vertexInputs := [⟨"Corner", "vertices", some 24, [⟨"position", .float3⟩, ⟨"uv", .float2⟩]⟩]

def meshesContract : Contract where
  name := "Meshes"
  hostRules := .metal
  slots := [⟨"vertices", .buffer, 0, .vertex⟩, ⟨"frame", .buffer, 1, .block⟩,
    ⟨"light_count", .buffer, 5, .scalar .uint⟩, ⟨"atlas", .texture, 0, .resource⟩]
  blocks := meshes.blocks
  vertexInputs := meshes.vertexInputs

theorem meshes_yields : meshes.Yields meshesContract where
  name := rfl
  hostRules := rfl
  slots := by decide
  ordered := by decide
  blocks := rfl
  vertexInputs := rfl

theorem wellFormed_meshes : meshes.WellFormed := by
  decide +kernel

theorem validate_meshes : meshes.validate = .ok meshesContract :=
  validate_eq_ok_iff.mpr ⟨wellFormed_meshes, meshes_yields⟩

/-! ### Acceptance -/

/-- A schema is accepted exactly when it is well formed, and then as the one contract that has all
that it declares. -/
theorem accepted_iff_wellFormed (schema : Schema) :
    ((∃ contract, schema.validate = .ok contract) ↔ schema.WellFormed) ∧
      ∀ contract, schema.validate = .ok contract ↔ schema.WellFormed ∧ schema.Yields contract := by
  refine ⟨?_, fun contract => validate_eq_ok_iff⟩
  constructor
  · rintro ⟨contract, h⟩
    exact (validate_eq_ok_iff.mp h).1
  · intro h
    obtain ⟨contract, hyields⟩ := h.exists_yields
    exact ⟨contract, validate_eq_ok_iff.mpr ⟨h, hyields⟩⟩

theorem meshes_accepted :
    (∃ contract, meshes.validate = .ok contract) ∧ meshes.Yields meshesContract := by
  obtain ⟨haccepted, hcontract⟩ := accepted_iff_wellFormed meshes
  exact ⟨haccepted.mpr wellFormed_meshes, ((hcontract _).mp validate_meshes).2⟩

end Schema

end ShaderLayout
