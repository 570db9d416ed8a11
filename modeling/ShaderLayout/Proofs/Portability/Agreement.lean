import ShaderLayout.Contract.Check
import ShaderLayout.Proofs.Checks
import ShaderLayout.Proofs.Layout.Comparison
import ShaderLayout.Proofs.Schema.WellFormed

/-!
Rule sets that agree on a block. A contract is portable exactly when any two of
the rule sets agree on each of its blocks, although each is held against the
first one only; it matters neither in which order rule sets come nor how often.
-/

namespace ShaderLayout

namespace FieldLayout

/-- Which field lies where. -/
def site (placed : FieldLayout) : Field × Nat :=
  (placed.field, placed.offset)

theorem map_site_eq_zip (fields : List FieldLayout) :
    fields.map site = (fields.map field).zip (fields.map (·.offset)) :=
  List.zip_map'.symm

theorem map_observed_of_map_site {first second : List FieldLayout}
    (h : first.map site = second.map site) : first.map observed = second.map observed := by
  have hobserved := congrArg (List.map fun place => ObservedField.mk place.1.name place.2) h
  rwa [List.map_map, List.map_map] at hobserved

end FieldLayout

namespace Block

variable {block : Block} {first second third : LayoutRules}

/-- The block has one size under both rule sets, and its fields the same offsets. -/
structure AgreesUnder (block : Block) (first second : LayoutRules) : Prop where
  offsets : (block.layout first).fields.map (·.offset) = (block.layout second).fields.map (·.offset)
  size : (block.layout first).size = (block.layout second).size

theorem AgreesUnder.symm (h : block.AgreesUnder first second) : block.AgreesUnder second first :=
  ⟨h.offsets.symm, h.size.symm⟩

theorem AgreesUnder.trans (h : block.AgreesUnder first second)
    (h' : block.AgreesUnder second third) : block.AgreesUnder first third :=
  ⟨h.offsets.trans h'.offsets, h.size.trans h'.size⟩

theorem AgreesUnder.map_site (h : block.AgreesUnder first second) :
    (block.layout first).fields.map FieldLayout.site =
      (block.layout second).fields.map FieldLayout.site := by
  have hfields (rules : LayoutRules) : (block.layout rules).fields.map FieldLayout.field =
      block.fields := FieldLayout.map_field_placeAll rules 0 block.fields
  rw [FieldLayout.map_site_eq_zip, FieldLayout.map_site_eq_zip, hfields, hfields, h.offsets]

theorem compare_layout_eq_ok_iff :
    (block.layout first).compare (block.layout second).observed = .ok () ↔
      block.AgreesUnder first second := by
  rw [BlockLayout.compare_eq_ok_iff, BlockLayout.observed_fields, BlockLayout.observed_size]
  constructor
  · rintro ⟨hfields, hsize⟩
    have hoffsets := congrArg (List.map ObservedField.offset) hfields
    rw [List.map_map, List.map_map] at hoffsets
    exact ⟨hoffsets.symm, hsize.symm⟩
  · intro h
    exact ⟨FieldLayout.map_observed_of_map_site h.symm.map_site, h.size.symm⟩

end Block

namespace Contract

theorem comparePortable_eq_ok {block : Block} {first other : LayoutRules} :
    comparePortable block first other = .ok () ↔
      (block.layout first).compare (block.layout other).observed = .ok () := by
  rw [comparePortable, mapError_eq_ok_iff]

/-- Any two of the rule sets agree on each block. -/
def AgreesUnder (contract : Contract) (rules : List LayoutRules) : Prop :=
  ∀ block ∈ contract.blocks, ∀ first ∈ rules, ∀ second ∈ rules, block.AgreesUnder first second

theorem checkPortability_cons_eq_ok_iff {contract : Contract} {first : LayoutRules}
    {others : List LayoutRules} :
    contract.checkPortability (first :: others) = .ok () ↔
      ∀ block ∈ contract.blocks, ∀ other ∈ others, block.AgreesUnder first other := by
  rw [checkPortability, forM_eq_ok_iff]
  simp only [forM_eq_ok_iff, comparePortable_eq_ok, Block.compare_layout_eq_ok_iff]

theorem checkPortability_eq_ok_iff (contract : Contract) (rules : List LayoutRules) :
    contract.checkPortability rules = .ok () ↔ contract.AgreesUnder rules := by
  cases rules with
  | nil => exact iff_of_true rfl fun _ _ => nofun
  | cons first others =>
      rw [checkPortability_cons_eq_ok_iff]
      constructor
      · intro h block hblock
        have hfirst : ∀ rules ∈ first :: others, block.AgreesUnder first rules :=
          List.forall_mem_cons.mpr ⟨⟨rfl, rfl⟩, h block hblock⟩
        -- Two rule sets agree with the first one, hence with one another.
        intro one hone two htwo
        exact (hfirst one hone).symm.trans (hfirst two htwo)
      · intro h block hblock other hother
        exact h block hblock first List.mem_cons_self other (List.mem_cons_of_mem _ hother)

theorem AgreesUnder.of_subset {contract : Contract} {rules others : List LayoutRules}
    (h : contract.AgreesUnder rules) (hsubset : others ⊆ rules) : contract.AgreesUnder others :=
  fun block hblock first hfirst second hsecond =>
    h block hblock first (hsubset hfirst) second (hsubset hsecond)

end Contract

theorem Block.surface_agreesUnder (first second : LayoutRules) :
    Block.surface.AgreesUnder first second := by
  cases first <;> cases second <;> exact ⟨by decide, by decide⟩

theorem Contract.surfaces_agreesUnder (rules : List LayoutRules) :
    Schema.surfacesContract.AgreesUnder rules := by
  intro block hblock first _ second _
  rw [List.mem_singleton.mp hblock]
  exact Block.surface_agreesUnder first second

end ShaderLayout
