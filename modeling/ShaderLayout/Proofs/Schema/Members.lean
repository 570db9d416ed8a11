import ShaderLayout.Proofs.Schema.Slots
import ShaderLayout.Target.Basic

/-!
When blocks and vertex inputs pass their checks, said of the declared slots and
without an order of checks. Type names pass when all of them are different and
none is in use already.
-/

namespace ShaderLayout

/-- No two buffers share a name, so that a name finds the one buffer that has it. -/
def UniqueBuffers (slots : List Slot) : Prop :=
  ∀ first ∈ slots, ∀ second ∈ slots, first.bindingClass = .buffer →
    second.bindingClass = .buffer → first.name = second.name → first = second

theorem bufferSlot_eq_ok_iff {slots : List Slot} (hslots : UniqueBuffers slots)
    {owner name : String} {slot : Slot} :
    bufferSlot slots owner name = .ok slot ↔
      slot ∈ slots ∧ slot.bindingClass = .buffer ∧ slot.name = name := by
  rw [bufferSlot]
  cases hfind : slots.find? fun slot => slot.bindingClass = .buffer && slot.name == name with
  | none =>
      rw [List.find?_eq_none] at hfind
      refine iff_of_false nofun ?_
      rintro ⟨hmem, hclass, hname⟩
      exact hfind slot hmem (by simp [hclass, hname])
  | some found =>
      have hmem := List.mem_of_find?_eq_some hfind
      have hfound := List.find?_some hfind
      simp only [Bool.and_eq_true, decide_eq_true_eq, beq_iff_eq] at hfound
      constructor
      · rintro ⟨⟩
        exact ⟨hmem, hfound⟩
      · rintro ⟨hslot, hclass, hname⟩
        have heq := hslots found hmem slot hslot hfound.1 hclass (hfound.2.trans hname.symm)
        exact congrArg Except.ok heq

namespace Block

/-- What has to hold of a block among the slots of its schema. -/
structure WellFormed (slots : List Slot) (block : Block) : Prop where
  name : Name.isAccepted block.name
  slot : ∃ slot ∈ slots, slot.bindingClass = .buffer ∧ slot.name = block.slot ∧ slot.kind = .block
  nonempty : block.fields ≠ []
  names : ∀ field ∈ block.fields, Name.isAccepted field.name
  renderings : (block.fields.map fun field => Name.camel field.name).Nodup

instance (slots : List Slot) (block : Block) : Decidable (block.WellFormed slots) :=
  decidable_of_iff (_ ∧ _ ∧ _ ∧ _ ∧ _)
    ⟨fun ⟨name, slot, nonempty, names, renderings⟩ => ⟨name, slot, nonempty, names, renderings⟩,
      fun h => ⟨h.name, h.slot, h.nonempty, h.names, h.renderings⟩⟩

theorem checkFields_cons {owner : String} {earlier fields : List Field} {field : Field} :
    checkFields owner earlier (field :: fields) = .ok () ↔
      Name.isAccepted field.name ∧
      (∀ other ∈ earlier, Name.camel other.name ≠ Name.camel field.name) ∧
      checkFields owner (earlier ++ [field]) fields = .ok () := by
  rw [checkFields, bind_eq_ok_iff]
  simp only [guard_eq_ok_iff, List.any_eq_true, beq_iff_eq, not_exists, not_and]
  constructor
  · rintro ⟨_, hname, -, hcamel, hrest⟩
    exact ⟨checkName_eq_ok_iff.mp hname, hcamel, hrest⟩
  · rintro ⟨hname, hcamel, hrest⟩
    refine ⟨(), checkName_eq_ok_iff.mpr hname, ?_, hcamel, hrest⟩
    intro other hother heq
    exact hcamel other hother (congrArg Name.camel heq)

/-- Fields pass when their names are accepted and no two of them have one rendering. -/
theorem checkFields_eq_ok_iff {owner : String} {fields : List Field} :
    checkFields owner [] fields = .ok () ↔
      (∀ field ∈ fields, Name.isAccepted field.name) ∧
      (fields.map fun field => Name.camel field.name).Nodup := by
  rw [scan_eq_ok_iff (fun _ => rfl) fun _ _ _ => checkFields_cons, List.nodup_iff_pairwise_ne,
    List.pairwise_map]
  exact and_congr_right fun _ => and_iff_left nofun

theorem check_eq_ok_iff {slots : List Slot} (hslots : UniqueBuffers slots) {block : Block} :
    block.check slots = .ok () ↔ block.WellFormed slots := by
  rw [check]
  simp only [bind_eq_ok_iff, guard_eq_ok_iff, checkFields_eq_ok_iff, bufferSlot_eq_ok_iff hslots]
  constructor
  · rintro ⟨_, hname, slot, ⟨hmem, hclass, hslot⟩, hkind, hfields, hnames, hcamel⟩
    refine ⟨checkName_eq_ok_iff.mp hname, ⟨slot, hmem, hclass, hslot, not_not.mp hkind⟩, ?_, hnames,
      hcamel⟩
    rintro heq
    exact hfields (by rw [heq]; rfl)
  · rintro ⟨hname, ⟨slot, hmem, hclass, hslot, hkind⟩, hfields, hnames, hcamel⟩
    refine ⟨(), checkName_eq_ok_iff.mpr hname, slot, ⟨hmem, hclass, hslot⟩, not_not.mpr hkind, ?_,
      hnames, hcamel⟩
    exact fun hempty => hfields (List.isEmpty_iff.mp hempty)

theorem WellFormed.of_subset {slots others : List Slot} (hslots : slots ⊆ others) {block : Block}
    (h : block.WellFormed slots) : block.WellFormed others :=
  { h with slot := h.slot.imp fun _ hslot => ⟨hslots hslot.1, hslot.2⟩ }

end Block

namespace VertexInput

/-- What has to hold of a vertex input among the slots of its schema. -/
structure WellFormed (slots : List Slot) (input : VertexInput) : Prop where
  name : Name.isAccepted input.name
  slot : ∃ slot ∈ slots, slot.bindingClass = .buffer ∧ slot.name = input.slot ∧ slot.kind = .vertex
  nonempty : input.attributes ≠ []
  vectors : ∀ attr ∈ input.attributes, ¬attr.format.isMatrix
  names : ∀ attr ∈ input.attributes, Name.isAccepted attr.name
  renderings : (input.attributes.map fun attr => Name.camel attr.name).Nodup
  stride : ∀ stride, input.stride = some stride → 4 ∣ stride ∧ input.packedSize ≤ stride

instance (slots : List Slot) (input : VertexInput) : Decidable (input.WellFormed slots) :=
  decidable_of_iff (_ ∧ _ ∧ _ ∧ _ ∧ _ ∧ _ ∧
      ∀ stride ∈ input.stride, 4 ∣ stride ∧ input.packedSize ≤ stride)
    ⟨fun ⟨name, slot, nonempty, vectors, names, renderings, stride⟩ =>
        ⟨name, slot, nonempty, vectors, names, renderings, stride⟩,
      fun h => ⟨h.name, h.slot, h.nonempty, h.vectors, h.names, h.renderings, h.stride⟩⟩

/-- Different camel renderings make different names and Pascal renderings. -/
theorem checkAttributes_cons {owner : String} {earlier attrs : List Attribute} {attr : Attribute} :
    checkAttributes owner earlier (attr :: attrs) = .ok () ↔
      (Name.isAccepted attr.name ∧ ¬attr.format.isMatrix) ∧
      (∀ other ∈ earlier, Name.camel other.name ≠ Name.camel attr.name) ∧
      checkAttributes owner (earlier ++ [attr]) attrs = .ok () := by
  rw [checkAttributes]
  simp only [bind_eq_ok_iff, guard_eq_ok_iff, List.any_eq_true, beq_iff_eq, not_exists, not_and]
  constructor
  · rintro ⟨_, hname, -, hcamel, -, hmatrix, hrest⟩
    exact ⟨⟨checkName_eq_ok_iff.mp hname, hmatrix⟩, hcamel, hrest⟩
  · rintro ⟨⟨hname, hmatrix⟩, hcamel, hrest⟩
    refine ⟨(), checkName_eq_ok_iff.mpr hname, ?_, hcamel, ?_, hmatrix, hrest⟩
    · exact fun other hother heq => hcamel other hother (congrArg Name.camel heq)
    · exact fun other hother heq => hcamel other hother (Name.camel_eq_of_pascal_eq heq)

theorem checkAttributes_eq_ok_iff {owner : String} {attrs : List Attribute} :
    checkAttributes owner [] attrs = .ok () ↔
      (∀ attr ∈ attrs, Name.isAccepted attr.name ∧ ¬attr.format.isMatrix) ∧
      (attrs.map fun attr => Name.camel attr.name).Nodup := by
  rw [scan_eq_ok_iff (fun _ => rfl) fun _ _ _ => checkAttributes_cons, List.nodup_iff_pairwise_ne,
    List.pairwise_map]
  exact and_congr_right fun _ => and_iff_left nofun

theorem checkStride_eq_ok_iff {input : VertexInput} :
    input.checkStride = .ok () ↔
      ∀ stride, input.stride = some stride → 4 ∣ stride ∧ input.packedSize ≤ stride := by
  rw [checkStride]
  cases input.stride with
  | none => exact iff_of_true rfl nofun
  | some stride =>
      simp only [Option.some.injEq, forall_eq', Nat.dvd_iff_mod_eq_zero]
      split
      · next hshort => exact iff_of_false nofun fun h => Nat.not_le.mpr hshort h.2
      split
      · next hodd => exact iff_of_false nofun fun h => hodd h.1
      next hlong heven => exact iff_of_true rfl ⟨not_not.mp heven, Nat.not_lt.mp hlong⟩

theorem check_eq_ok_iff {slots : List Slot} (hslots : UniqueBuffers slots) {input : VertexInput} :
    input.check slots = .ok () ↔ input.WellFormed slots := by
  rw [check]
  simp only [bind_eq_ok_iff, guard_eq_ok_iff, checkStride_eq_ok_iff, bufferSlot_eq_ok_iff hslots]
  constructor
  · rintro ⟨_, hname, slot, ⟨hmem, hclass, hslot⟩, hkind, hattrs, _, hchecked, hstride⟩
    obtain ⟨hnames, hcamel⟩ := checkAttributes_eq_ok_iff.mp hchecked
    refine ⟨checkName_eq_ok_iff.mp hname, ⟨slot, hmem, hclass, hslot, not_not.mp hkind⟩, ?_, ?_, ?_,
      hcamel, hstride⟩
    · rintro heq
      exact hattrs (by rw [heq]; rfl)
    · exact fun attr hattr => (hnames attr hattr).2
    · exact fun attr hattr => (hnames attr hattr).1
  · rintro ⟨hname, ⟨slot, hmem, hclass, hslot, hkind⟩, hattrs, hvectors, hnames, hcamel, hstride⟩
    refine ⟨(), checkName_eq_ok_iff.mpr hname, slot, ⟨hmem, hclass, hslot⟩, not_not.mpr hkind, ?_,
      (), checkAttributes_eq_ok_iff.mpr ⟨?_, hcamel⟩, hstride⟩
    · exact fun hempty => hattrs (List.isEmpty_iff.mp hempty)
    · exact fun attr hattr => ⟨hnames attr hattr, hvectors attr hattr⟩

theorem WellFormed.of_subset {slots others : List Slot} (hslots : slots ⊆ others)
    {input : VertexInput} (h : input.WellFormed slots) : input.WellFormed others :=
  { h with slot := h.slot.imp fun _ hslot => ⟨hslots hslot.1, hslot.2⟩ }

end VertexInput

/-! Type names. -/

theorem claimTypeNames_eq_ok_iff {taken rest names : List String} :
    names.foldlM claimTypeName taken = .ok rest ↔
      names.Nodup ∧ (∀ name ∈ names, name ∉ taken) ∧ rest = names.reverse ++ taken := by
  induction names generalizing taken with
  | nil =>
      rw [List.foldlM_nil]
      constructor
      · rintro ⟨⟩
        exact ⟨.nil, nofun, rfl⟩
      · rintro ⟨-, -, rfl⟩
        rfl
  | cons name names ih =>
      rw [List.foldlM_cons, bind_eq_ok_iff, List.nodup_cons, List.forall_mem_cons,
        List.reverse_cons, List.append_assoc, List.singleton_append]
      simp only [ih, claimTypeName, List.contains_iff_mem]
      constructor
      · rintro ⟨_, hclaim, hnodup, hfree, rfl⟩
        split at hclaim
        · cases hclaim
        · next hname =>
            cases hclaim
            refine ⟨⟨fun hmem => hfree name hmem List.mem_cons_self, hnodup⟩, ⟨hname, ?_⟩, rfl⟩
            exact fun other hother hmem => hfree other hother (List.mem_cons_of_mem _ hmem)
      · rintro ⟨⟨hnew, hnodup⟩, ⟨hname, hfree⟩, rfl⟩
        refine ⟨name :: taken, if_neg hname, hnodup, fun other hother hmem => ?_, rfl⟩
        rcases List.mem_cons.mp hmem with rfl | hmem
        · exact hnew hother
        · exact hfree other hother hmem

/-- Items that take names and are checked one after the other. -/
theorem claimAll_eq_ok_iff {α : Type} {names : α → List String}
    {check : α → Except LayoutError Unit} {taken rest : List String} {items : List α} :
    items.foldlM (fun taken item => do
        let taken ← (names item).foldlM claimTypeName taken
        check item
        return taken) taken = .ok rest ↔
      (items.flatMap names).foldlM claimTypeName taken = .ok rest ∧
        ∀ item ∈ items, check item = .ok () := by
  induction items generalizing taken with
  | nil => exact (and_iff_left nofun).symm
  | cons item items ih =>
      rw [List.foldlM_cons, List.flatMap_cons, List.foldlM_append, List.forall_mem_cons]
      simp only [bind_eq_ok_iff, ih]
      constructor
      · rintro ⟨next, ⟨_, hnames, _, hcheck, ⟨⟩⟩, hrest, hchecks⟩
        exact ⟨⟨next, hnames, hrest⟩, hcheck, hchecks⟩
      · rintro ⟨⟨next, hnames, hrest⟩, hcheck, hchecks⟩
        exact ⟨next, ⟨next, hnames, (), hcheck, rfl⟩, hrest, hchecks⟩

theorem checkBlocks_eq_ok_iff {slots : List Slot} {taken rest : List String} {blocks : List Block} :
    checkBlocks slots taken blocks = .ok rest ↔
      (blocks.map (·.name)).foldlM claimTypeName taken = .ok rest ∧
        ∀ block ∈ blocks, block.check slots = .ok () := by
  have hnames : blocks.map (·.name) = blocks.flatMap fun block => [block.name] :=
    List.map_eq_flatMap
  rw [hnames, ← claimAll_eq_ok_iff]
  simp only [checkBlocks, List.foldlM_cons, List.foldlM_nil, bind_pure]

theorem checkVertexInputs_eq_ok_iff {slots : List Slot} {taken rest : List String}
    {inputs : List VertexInput} :
    checkVertexInputs slots taken inputs = .ok rest ↔
      (inputs.flatMap VertexInput.typeNames).foldlM claimTypeName taken = .ok rest ∧
        ∀ input ∈ inputs, input.check slots = .ok () :=
  claimAll_eq_ok_iff

theorem BindingClass.nodup_enumNames : (all.map enumName).Nodup := by
  decide

theorem mem_takenTypeNames {slots : List Slot} {name : String} :
    name ∈ takenTypeNames slots ↔
      (∃ bindingClass : BindingClass, name = bindingClass.enumName) ∨
      (∃ type : FieldType, name = Name.pascal type.name) ∨
      ∃ slot ∈ slots, ∃ type, slot.kind = .scalar type ∧ name = Name.pascal slot.name := by
  have henum (bindingClass : BindingClass) :
      Name.pascal bindingClass.name ++ "Index" = bindingClass.enumName := by
    cases bindingClass <;> decide +kernel
  rw [takenTypeNames, List.mem_append, List.mem_append, or_assoc]
  refine or_congr ?_ (or_congr ?_ ?_)
  · simp [henum, BindingClass.mem_all, eq_comm]
  · simp [FieldType.mem_all, eq_comm]
  · rw [List.mem_filterMap]
    refine exists_congr fun slot => and_congr_right fun _ => ?_
    cases slot.kind <;> simp [eq_comm]

end ShaderLayout
