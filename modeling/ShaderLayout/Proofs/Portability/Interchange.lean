import ShaderLayout.Program.Plan
import ShaderLayout.Proofs.Memory.Block
import ShaderLayout.Proofs.Portability.Agreement

/-!
Blocks that change hands. Under rule sets that agree on a block every field is
found at one place, whatever its size there, so that all sides read the same
from the same bytes. This is what a run makes sure of for the host and for all
its outputs before it writes a file.
-/

namespace ShaderLayout

/-- What is read from a field does not depend on its size. -/
theorem FieldLayout.readFrom_of_site {first second : FieldLayout} (h : first.site = second.site)
    (bytes : List UInt8) : first.readFrom bytes = second.readFrom bytes := by
  obtain ⟨_, _, _, _⟩ := first
  obtain ⟨_, _, _, _⟩ := second
  simp only [site, field, Prod.mk.injEq, Field.mk.injEq] at h
  obtain ⟨⟨rfl, rfl⟩, rfl⟩ := h
  rfl

theorem BlockLayout.map_site_field? (layout : BlockLayout) (name : String) :
    (layout.field? name).map FieldLayout.site =
      (layout.fields.map FieldLayout.site).find? fun place => place.1.name == name := by
  rw [List.find?_map]
  rfl

namespace Block

variable {block : Block} {first second : LayoutRules}

theorem AgreesUnder.map_site_locate (h : block.AgreesUnder first second) (length : Nat)
    (name : String) :
    ((block.layout first).locate length name).map FieldLayout.site =
      ((block.layout second).locate length name).map FieldLayout.site := by
  have hfield : ((block.layout first).field? name).map FieldLayout.site =
      ((block.layout second).field? name).map FieldLayout.site := by
    rw [BlockLayout.map_site_field?, BlockLayout.map_site_field?, h.map_site]
  rw [BlockLayout.locate, BlockLayout.locate, h.size]
  split
  · rfl
  · cases hsecond : (block.layout second).field? name with
    | none =>
        rw [hsecond, Option.map_none, Option.map_eq_none_iff] at hfield
        rw [hfield]
        rfl
    | some found =>
        rw [hsecond, Option.map_some, Option.map_eq_some_iff] at hfield
        obtain ⟨placed, hfirst, hsite⟩ := hfield
        rw [hfirst]
        exact congrArg Except.ok hsite

theorem AgreesUnder.readField_eq (h : block.AgreesUnder first second) (bytes : List UInt8)
    (name : String) :
    (block.layout first).readField bytes name = (block.layout second).readField bytes name := by
  have hlocate := h.map_site_locate bytes.length name
  rw [BlockLayout.readField_eq, BlockLayout.readField_eq]
  cases hfirst : (block.layout first).locate bytes.length name <;>
    cases hsecond : (block.layout second).locate bytes.length name <;>
      rw [hfirst, hsecond] at hlocate
  · exact congrArg Except.error (Except.error.inj hlocate)
  · cases hlocate
  · cases hlocate
  · exact congrArg Except.ok (FieldLayout.readFrom_of_site (Except.ok.inj hlocate) bytes)

/-- A write of a value of the right type to a buffer that holds the block succeeds. -/
theorem exists_writeField {field : Field} {bytes : List UInt8} {name : String} {value : FieldValue}
    (hfield : block.field? name = some field) (htype : value.type = field.type)
    (hsize : (block.layout first).size ≤ bytes.length) :
    ∃ written, (block.layout first).writeField bytes name value = .ok written := by
  rw [← block.field?_layout first, Option.map_eq_some_iff] at hfield
  obtain ⟨placed, hplaced, rfl⟩ := hfield
  have hlocate := BlockLayout.locate_eq_ok_iff.mpr ⟨hsize, hplaced⟩
  exact ⟨_, BlockLayout.writeField_eq_ok_iff.mpr ⟨placed, hlocate, htype, rfl⟩⟩

/-- Bytes of the block mean the same under both rule sets: all fields of all buffers are read alike,
and what is written under the first is read back under the second. -/
structure Interchangeable (block : Block) (first second : LayoutRules) : Prop where
  reads : ∀ bytes name,
    (block.layout first).readField bytes name = (block.layout second).readField bytes name
  writes : ∀ bytes name field value, block.field? name = some field → value.type = field.type →
    (block.layout first).size ≤ bytes.length →
    ∃ written, (block.layout first).writeField bytes name value = .ok written ∧
      (block.layout second).readField written name = .ok value

theorem AgreesUnder.interchangeable (h : block.AgreesUnder first second) :
    block.Interchangeable first second where
  reads := h.readField_eq
  writes := by
    intro bytes name field value hfield htype hsize
    obtain ⟨written, hwrite⟩ := exists_writeField hfield htype hsize
    refine ⟨written, hwrite, ?_⟩
    rw [← h.readField_eq, (block.placed_layout first).readField_of_writeField hwrite, if_pos rfl]

end Block

/-! The sides of a run. -/

theorem Config.mem_rules {config : Config} {contract : Contract} {rules : LayoutRules} :
    rules ∈ config.rules contract ↔
      rules ∈ contract.hostRules :: config.outputs.map (·.target.rules contract) := by
  simp [Config.rules, Config.targets]

theorem Plan.outcome_checkSides_eq_ok_iff {config : Config} {contract : Contract} :
    (Plan.checkSides config contract).outcome = .ok () ↔
      contract.checkPortability (config.rules contract) = .ok () := by
  rw [Plan.checkSides, Report.outcome_bind, Report.outcome_ofResult]
  cases contract.checkPortability (config.rules contract) with
  | error error => exact iff_of_false nofun nofun
  | ok => exact iff_of_true rfl rfl

/-- A contract is portable when any two of the rule sets agree on each block, in whatever order they
come; and once a run has checked its sides, blocks pass freely between the host and all outputs. -/
theorem Contract.portable_iff_agrees (contract : Contract) :
    (∀ rules, contract.checkPortability rules = .ok () ↔
      ∀ block ∈ contract.blocks, ∀ first ∈ rules, ∀ second ∈ rules,
        block.AgreesUnder first second) ∧
    (∀ rules others, (∀ one, one ∈ rules ↔ one ∈ others) →
      (contract.checkPortability rules = .ok () ↔ contract.checkPortability others = .ok ())) ∧
    (∀ config, (Plan.checkSides config contract).outcome = .ok () →
      let sides := contract.hostRules :: config.outputs.map (·.target.rules contract)
      ∀ first ∈ sides, ∀ second ∈ sides, ∀ block ∈ contract.blocks,
        block.Interchangeable first second) ∧
    ∀ schema : Schema, schema.validate = .ok contract → ∀ block ∈ contract.blocks,
      ∀ field ∈ block.fields, block.field? field.name = some field := by
  refine ⟨contract.checkPortability_eq_ok_iff, ?_, ?_, ?_⟩
  · intro rules others hsame
    rw [checkPortability_eq_ok_iff, checkPortability_eq_ok_iff]
    constructor
    · intro h
      exact h.of_subset fun one hone => (hsame one).mpr hone
    · intro h
      exact h.of_subset fun one hone => (hsame one).mp hone
  · intro config hsides _ first hfirst second hsecond block hblock
    have hagrees := (contract.checkPortability_eq_ok_iff _).mp
      (Plan.outcome_checkSides_eq_ok_iff.mp hsides)
    exact (hagrees block hblock first (Config.mem_rules.mpr hfirst) second
      (Config.mem_rules.mpr hsecond)).interchangeable
  · intro schema hvalid block hblock field hfield
    exact find?_name_of_mem (schema.nodup_of_validate hvalid hblock) hfield

theorem Contract.surfaces_pass_freely :
    (Plan.checkSides (.standard ⟨⟨"."⟩⟩) Schema.surfacesContract).outcome = .ok () ∧
      Block.surface.Interchangeable .metal .wgsl ∧
      Block.surface.field? "normal" = some ⟨"normal", .float3⟩ := by
  obtain ⟨-, -, hsides, hfields⟩ := Contract.portable_iff_agrees Schema.surfacesContract
  have hchecked : (Plan.checkSides (.standard ⟨⟨"."⟩⟩) Schema.surfacesContract).outcome = .ok () :=
    Plan.outcome_checkSides_eq_ok_iff.mpr
      ((Contract.checkPortability_eq_ok_iff _ _).mpr (Contract.surfaces_agreesUnder _))
  refine ⟨hchecked, ?_, ?_⟩
  · exact hsides _ hchecked .metal (by decide) .wgsl (by decide) .surface (by decide)
  · exact hfields _ Schema.validate_surfaces .surface (by decide) ⟨"normal", .float3⟩ (by decide)

end ShaderLayout
