import ShaderLayout.Proofs.Name.Legality
import ShaderLayout.Proofs.Schema.WellFormed
import ShaderLayout.Proofs.Shader.Layout
import ShaderLayout.Proofs.Shader.Reading

/-!
Names in the module of a contract. The checks on a schema leave open whether a
name is kept by the shader language, whether an alias starts with a digit, and
whether a structure has the name of a constant. Everything else about the names
of a module is settled by them. The other sides have enumerations of indices as
well, and those are held against structures but not against aliases.
-/

namespace ShaderLayout

open Shader

/-! ### Names that can be used -/

namespace Shader

theorem isLineEnd_of_inIdentifier {c : Char} (h : Name.inIdentifier c) : isLineEnd c = false :=
  Name.of_toNat_lt (motive := fun c => Name.inIdentifier c → isLineEnd c = false)
    (toNat_lt_of_inIdentifier h) (by decide) h

/-- Only words that start with an underscore are kept by their spelling. -/
theorem usable_of_head {word : String} (h : Name.isIdentifier word.toList)
    (hhead : word.toList.head? ≠ some '_') (hkept : word ∉ reservedNames) : Usable word where
  identifier := h
  notUnderscore := by
    rintro rfl
    exact hhead rfl
  notReserved := by
    cases hword : word.toList with
    | nil => rfl
    | cons c cs =>
        rw [hword] at hhead
        have hc : ('_' == c) = false := by
          rw [beq_eq_false_iff_ne]
          rintro rfl
          exact hhead rfl
        show ('_' == c && _) = false
        rw [hc, Bool.false_and]
  notKept := hkept

theorem usable_iff_of_isAccepted {name : String} (h : Name.isAccepted name) :
    Usable name ↔ name ∉ reservedNames := by
  obtain ⟨hname, hreserved, hpascal, -⟩ := Name.isAccepted_iff.mp h
  refine ⟨Usable.notKept, fun hkept => ⟨hname, ?_, (Bool.or_eq_false_iff.mp hreserved).1, hkept⟩⟩
  rintro rfl
  exact hpascal (by decide)

theorem usable_pascal_iff {name : String} (h : Name.isAccepted name) :
    Usable (Name.pascal name) ↔
      (Name.pascal name).toList.head?.any Char.isDigit = false ∧
        Name.pascal name ∉ reservedNames := by
  rw [← Name.isIdentifier_pascal_iff h]
  refine ⟨fun husable => ⟨husable.identifier, husable.notKept⟩,
    fun ⟨hname, hkept⟩ => usable_of_head hname ?_ hkept⟩
  obtain ⟨c, cs, hchars, hc, -⟩ := Name.pascal_spec h
  rw [hchars, List.head?_cons, ne_eq, Option.some.injEq]
  rintro rfl
  exact absurd hc (by decide)

end Shader

/-! ### Names of constants -/

/-- The name of the constant for a slot. -/
def Slot.constantName (slot : Slot) : String :=
  Name.shouty slot.bindingClass.name ++ "_" ++ Name.shouty slot.name

namespace Slot

theorem toList_constantName (slot : Slot) : slot.constantName.toList =
    (Name.shouty slot.bindingClass.name).toList ++ '_' :: (Name.shouty slot.name).toList := by
  simp [constantName]

theorem shouty_class_spec (bindingClass : BindingClass) :
    ∃ c cs, (Name.shouty bindingClass.name).toList = c :: cs ∧ (c :: cs).all Char.isUpper := by
  cases bindingClass
  · exact ⟨'B', "UFFER".toList, by decide +kernel⟩
  · exact ⟨'T', "EXTURE".toList, by decide +kernel⟩
  · exact ⟨'S', "AMPLER".toList, by decide +kernel⟩

theorem ne_underscore_of_isUpper {c : Char} (h : c.isUpper) : c ≠ '_' := by
  rintro rfl
  cases h

/-- No kept name has both a capital in front and an underscore. -/
theorem underscore_notMem_reservedNames : ∀ word ∈ reservedNames,
    word.toList.head?.any Char.isUpper → '_' ∉ word.toList := by
  decide +kernel

theorem usable_constantName {slot : Slot} (h : Name.isAccepted slot.name) :
    Usable slot.constantName := by
  obtain ⟨c, cs, hcapitals, hupper⟩ := shouty_class_spec slot.bindingClass
  obtain ⟨hc, hcs⟩ := List.forall_mem_cons.mp (List.all_eq_true.mp hupper)
  have hlist : slot.constantName.toList = c :: (cs ++ '_' :: (Name.shouty slot.name).toList) := by
    rw [toList_constantName, hcapitals, List.cons_append]
  have hletter {d : Char} (hd : d.isUpper) : Name.startsIdentifier d :=
    have halpha : d.isAlpha := Bool.or_eq_true_iff.mpr (Or.inl hd)
    Bool.or_eq_true_iff.mpr (Or.inl halpha)
  refine usable_of_head ?_ ?_ fun hmem => ?_
  · rw [hlist]
    refine Bool.and_eq_true_iff.mpr ⟨hletter hc, List.all_eq_true.mpr ?_⟩
    refine List.forall_mem_append.mpr ⟨fun d hd => ?_, ?_⟩
    · exact Name.inIdentifier_of_startsIdentifier (hletter (hcs d hd))
    · refine List.forall_mem_cons.mpr ⟨rfl, fun d hd => ?_⟩
      exact Name.inIdentifier_of_mem_shouty (Name.isAccepted_iff.mp h).1 hd
  · rw [hlist, List.head?_cons, ne_eq, Option.some.injEq]
    exact ne_underscore_of_isUpper hc
  · refine underscore_notMem_reservedNames _ hmem ?_ ?_ <;> rw [hlist]
    · exact hc
    · exact List.mem_cons_of_mem c (List.mem_append_right cs List.mem_cons_self)

theorem shouty_class_injective {first second : BindingClass}
    (h : Name.shouty first.name = Name.shouty second.name) : first = second := by
  revert h
  cases first <;> cases second <;> decide +kernel

/-- The name of a constant tells the class of its slot and the Pascal rendering of its name. -/
theorem of_constantName_eq {first second : Slot} (h : first.constantName = second.constantName) :
    first.bindingClass = second.bindingClass ∧
      Name.pascal first.name = Name.pascal second.name := by
  -- The capitals of the class end at the first underscore.
  have hcut (slot : Slot) : slot.constantName.toList.takeWhile (· != '_') =
        (Name.shouty slot.bindingClass.name).toList ∧
      slot.constantName.toList.dropWhile (· != '_') = '_' :: (Name.shouty slot.name).toList := by
    obtain ⟨c, cs, hcapitals, hupper⟩ := shouty_class_spec slot.bindingClass
    rw [toList_constantName, hcapitals]
    refine takeWhile_append_of_head (fun d hd => bne_iff_ne.mpr ?_) ?_
    · exact ne_underscore_of_isUpper (List.all_eq_true.mp hupper d hd)
    · rintro _ ⟨⟩
      rfl
  obtain ⟨hfirst, hfirst'⟩ := hcut first
  obtain ⟨hsecond, hsecond'⟩ := hcut second
  rw [h] at hfirst hfirst'
  have hclass := String.toList_injective (hfirst.symm.trans hsecond)
  have hname := (List.cons.inj (hfirst'.symm.trans hsecond')).2
  exact ⟨shouty_class_injective hclass, Name.pascal_eq_of_shouty_eq (String.toList_injective hname)⟩

theorem pascal_ne_constantName {name : String} (h : Name.isAccepted name) (slot : Slot) :
    Name.pascal name ≠ slot.constantName := by
  intro heq
  have hmem : '_' ∈ Name.pascalChars name := by
    rw [← Name.toList_pascal, heq, toList_constantName]
    exact List.mem_append_right _ List.mem_cons_self
  exact absurd (Name.isAlphanum_of_mem_pascalChars (Name.isAccepted_iff.mp h).1 hmem) (by decide)

end Slot

/-! ### Names in a contract -/

/-- The names of the structures of a module. -/
def Contract.structNames (contract : Contract) : List String :=
  contract.blocks.map (·.name) ++ contract.vertexInputs.map (·.name)

/-- What the checks on a schema settle of the names in its contract. -/
structure Contract.WellNamed (contract : Contract) : Prop where
  name : Name.isAccepted contract.name
  slots : ∀ slot ∈ contract.slots, Name.isAccepted slot.name
  slotsApart : contract.slots.Pairwise fun first second =>
    first.bindingClass = second.bindingClass → Name.pascal first.name ≠ Name.pascal second.name
  blocks : ∀ block ∈ contract.blocks,
    Name.isAccepted block.name ∧ ∀ field ∈ block.fields, Name.isAccepted field.name
  vertexInputs : ∀ input ∈ contract.vertexInputs,
    Name.isAccepted input.name ∧ ∀ attr ∈ input.attributes, Name.isAccepted attr.name
  structs : contract.structNames.Nodup
  structsApart : ∀ name ∈ contract.structNames, ∀ slot ∈ contract.slots, ∀ type,
    slot.kind = .scalar type → name ≠ Name.pascal slot.name

theorem Schema.Yields.structNames_sublist {schema : Schema} {contract : Contract}
    (h : schema.Yields contract) : contract.structNames.Sublist schema.typeNames := by
  rw [Contract.structNames, Schema.typeNames, h.blocks, h.vertexInputs]
  refine (List.Sublist.refl _).append ?_
  induction schema.vertexInputs with
  | nil => exact .slnil
  | cons input inputs ih => exact (ih.trans (List.sublist_append_right _ _)).cons_cons input.name

theorem Schema.Yields.wellNamed {schema : Schema} {contract : Contract} (h : schema.Yields contract)
    (hwell : schema.WellFormed) : contract.WellNamed := by
  have hstructs := h.structNames_sublist
  have hnames : ∀ slot ∈ schema.declared, Name.isAccepted slot.name := by
    intro slot hslot
    obtain ⟨bindingClass, -, hmem⟩ := List.mem_flatMap.mp hslot
    have hname := List.mem_map_of_mem (f := fun slot : Slot => slot.name) hmem
    rw [declaredIn, Slot.map_name_declaredFrom] at hname
    obtain ⟨entry, hentry, heq⟩ := List.mem_map.mp hname
    exact heq ▸ (hwell.slots bindingClass).names entry hentry
  exact
    { name := h.name ▸ hwell.name
      slots := fun slot hslot => hnames slot (h.slots.subset hslot)
      slotsApart := h.slots.symm.pairwise ((pairwise_distinct_declared hwell.slots).imp
        fun hdistinct hclass => (hdistinct hclass).1) fun hapart hclass => (hapart hclass.symm).symm
      blocks := by
        rw [h.blocks]
        exact fun block hblock =>
          ⟨(hwell.blocks block hblock).name, (hwell.blocks block hblock).names⟩
      vertexInputs := by
        rw [h.vertexInputs]
        exact fun input hinput =>
          ⟨(hwell.vertexInputs input hinput).name, (hwell.vertexInputs input hinput).names⟩
      structs := hwell.typeNames.sublist hstructs
      structsApart := fun name hname slot hslot =>
        hwell.apartFromAliases name (hstructs.subset hname) slot (h.slots.subset hslot) }

theorem Schema.wellNamed_of_validate {schema : Schema} {contract : Contract}
    (h : schema.validate = .ok contract) : contract.WellNamed := by
  obtain ⟨hwell, hyields⟩ := validate_eq_ok_iff.mp h
  exact hyields.wellNamed hwell

namespace Contract

variable {contract : Contract}

theorem mem_slotsOf {bindingClass : BindingClass} {slot : Slot} :
    slot ∈ contract.slotsOf bindingClass ↔
      slot ∈ contract.slots ∧ slot.bindingClass = bindingClass := by
  simp [slotsOf]

theorem mem_scalarSlots {entry : Slot × FieldType} :
    entry ∈ contract.scalarSlots ↔
      (entry.1 ∈ contract.slots ∧ entry.1.bindingClass = .buffer) ∧
        entry.1.kind = .scalar entry.2 := by
  obtain ⟨slot, type⟩ := entry
  rw [scalarSlots, List.mem_filterMap, ← mem_slotsOf]
  constructor
  · rintro ⟨other, hother, hentry⟩
    split at hentry
    · next hkind =>
        cases hentry
        exact ⟨hother, hkind⟩
    · cases hentry
  · rintro ⟨hslot, hkind⟩
    exact ⟨slot, hslot, by rw [hkind]⟩

end Contract

/-! ### Names in a module -/

namespace Shader

variable {contract : Contract}

theorem classConstants_eq (contract : Contract) (bindingClass : BindingClass) :
    classConstants contract bindingClass =
      (contract.slotsOf bindingClass).map fun slot => .constant slot.constantName slot.index := by
  refine List.map_congr_left fun slot hslot => ?_
  rw [Slot.constantName, (Contract.mem_slotsOf.mp hslot).2]

theorem forall_mem_items_iff {motive : Item → Prop} :
    (∀ item ∈ items contract, motive item) ↔
      (∀ slot ∈ contract.slots, motive (.constant slot.constantName slot.index)) ∧
      (∀ entry ∈ contract.scalarSlots, motive (.alias (Name.pascal entry.1.name) entry.2)) ∧
      (∀ block ∈ contract.blocks, motive (.ofBlock (block.layout .wgsl))) ∧
      ∀ input ∈ contract.vertexInputs, motive (.ofVertex input.layout) := by
  have hconstants : (∀ item ∈ BindingClass.all.flatMap (classConstants contract), motive item) ↔
      ∀ slot ∈ contract.slots, motive (.constant slot.constantName slot.index) := by
    rw [List.forall_mem_flatMap]
    simp only [classConstants_eq, List.forall_mem_map, Contract.mem_slotsOf]
    exact ⟨fun h slot hslot => h _ slot.bindingClass.mem_all slot ⟨hslot, rfl⟩,
      fun h _ _ slot hslot => h slot hslot.1⟩
  rw [items, List.forall_mem_append, List.forall_mem_append, List.forall_mem_append, hconstants,
    scalarAliases, blockStructs, vertexStructs, List.forall_mem_map, List.forall_mem_map,
    List.forall_mem_map, and_assoc, and_assoc]

theorem forall_fields_iff {block : Block} {motive : String → Prop} :
    (∀ field ∈ (block.layout .wgsl).fields, motive field.name) ↔
      ∀ field ∈ block.fields, motive field.name := by
  rw [← List.forall_mem_map (f := FieldLayout.name) (P := motive), block.map_name_layout,
    List.forall_mem_map]

theorem forall_attributes_iff {input : VertexInput} {motive : String → Prop} :
    (∀ attr ∈ input.layout.attributes, motive attr.name) ↔
      ∀ attr ∈ input.attributes, motive attr.name := by
  rw [← List.forall_mem_map (f := AttributeLayout.name) (P := motive), input.map_name_layout,
    List.forall_mem_map]

theorem map_name_items (contract : Contract) :
    (items contract).map Item.name =
      BindingClass.all.flatMap (fun bindingClass =>
        (contract.slotsOf bindingClass).map Slot.constantName) ++
      contract.scalarSlots.map (fun entry => Name.pascal entry.1.name) ++ contract.structNames := by
  simp only [items, classConstants_eq, scalarAliases, blockStructs, vertexStructs, List.map_append,
    List.map_flatMap, List.map_map, Contract.structNames, List.append_assoc]
  rfl

theorem nodup_constantNames (h : contract.WellNamed) :
    (BindingClass.all.flatMap fun bindingClass =>
      (contract.slotsOf bindingClass).map Slot.constantName).Nodup := by
  rw [List.nodup_iff_pairwise_ne, List.pairwise_flatMap]
  constructor
  · intro bindingClass _
    rw [List.pairwise_map]
    refine (h.slotsApart.filter _).imp fun hapart heq => ?_
    obtain ⟨hclass, hpascal⟩ := Slot.of_constantName_eq heq
    exact hapart hclass hpascal
  · have hclasses : BindingClass.all.Pairwise (· ≠ ·) := by decide
    refine hclasses.imp fun hne => List.forall_mem_map.mpr fun first hfirst =>
      List.forall_mem_map.mpr fun second hsecond heq => hne ?_
    rw [← (Contract.mem_slotsOf.mp hfirst).2, ← (Contract.mem_slotsOf.mp hsecond).2]
    exact (Slot.of_constantName_eq heq).1

theorem nodup_aliasNames (h : contract.WellNamed) :
    (contract.scalarSlots.map fun entry => Name.pascal entry.1.name).Nodup := by
  have hbuffers : (contract.slotsOf .buffer).Pairwise fun first second =>
      Name.pascal first.name ≠ Name.pascal second.name := by
    refine (h.slotsApart.filter _).imp_of_mem fun hfirst hsecond hapart => hapart ?_
    rw [(Contract.mem_slotsOf.mp hfirst).2, (Contract.mem_slotsOf.mp hsecond).2]
  rw [List.nodup_iff_pairwise_ne, List.pairwise_map]
  refine hbuffers.filterMap _ fun first second hapart entry hentry other hother => ?_
  split at hentry <;> cases hentry
  split at hother <;> cases hother
  exact hapart

theorem isAccepted_of_mem_scalarSlots (h : contract.WellNamed) {entry : Slot × FieldType}
    (hentry : entry ∈ contract.scalarSlots) : Name.isAccepted entry.1.name :=
  h.slots entry.1 (Contract.mem_scalarSlots.mp hentry).1.1

/-- Only structures and constants can share a name. -/
theorem nodup_map_name_items (h : contract.WellNamed) :
    ((items contract).map Item.name).Nodup ↔
      ∀ name ∈ contract.structNames, ∀ slot ∈ contract.slots, name ≠ slot.constantName := by
  -- Constants have an underscore and aliases none, and structures were checked against aliases.
  have hvalues := List.nodup_append.mpr ⟨nodup_constantNames h, nodup_aliasNames h, ?_⟩
  · rw [map_name_items, List.nodup_append, and_iff_right hvalues, and_iff_right h.structs]
    constructor
    · intro hapart name hname slot hslot
      refine (hapart _ (List.mem_append_left _ ?_) name hname).symm
      refine List.mem_flatMap.mpr ⟨_, slot.bindingClass.mem_all, List.mem_map_of_mem ?_⟩
      exact Contract.mem_slotsOf.mpr ⟨hslot, rfl⟩
    · intro hapart value hvalue name hname
      rcases List.mem_append.mp hvalue with hconstant | halias
      · obtain ⟨_, -, hconstant⟩ := List.mem_flatMap.mp hconstant
        obtain ⟨slot, hslot, rfl⟩ := List.mem_map.mp hconstant
        exact (hapart name hname slot (Contract.mem_slotsOf.mp hslot).1).symm
      · obtain ⟨entry, hentry, rfl⟩ := List.mem_map.mp halias
        obtain ⟨⟨hslot, -⟩, hkind⟩ := Contract.mem_scalarSlots.mp hentry
        exact (h.structsApart name hname entry.1 hslot entry.2 hkind).symm
  · intro constantName hconstant aliasName halias
    obtain ⟨_, -, hconstant⟩ := List.mem_flatMap.mp hconstant
    obtain ⟨slot, -, rfl⟩ := List.mem_map.mp hconstant
    obtain ⟨entry, hentry, rfl⟩ := List.mem_map.mp halias
    exact (Slot.pascal_ne_constantName (isAccepted_of_mem_scalarSlots h hentry) slot).symm

/-- Remarks stay on their line, and only aliases can have a name that is no identifier. -/
theorem named_of_mem_items (h : contract.WellNamed) : ∀ item ∈ items contract, item.Named := by
  have hidentifier {name : String} (hname : Name.isAccepted name) : Name.isIdentifier name.toList :=
    (Name.isAccepted_iff.mp hname).1
  have hdigits (n : Nat) : ∀ c ∈ Nat.toDigits 10 n, isLineEnd c = false := by
    intro c hc
    have halnum := isAlphanum_of_isDigit (isDigit_of_mem_toDigits hc)
    exact isLineEnd_of_inIdentifier (Name.inIdentifier_of_isAlphanum halnum)
  rw [forall_mem_items_iff]
  refine ⟨fun slot hslot => Or.inl ?_, fun entry hentry => ?_, fun block hblock => Or.inl ?_,
    fun input hinput => Or.inl ?_⟩
  · exact (Slot.usable_constantName (h.slots slot hslot)).identifier
  · have haccepted := isAccepted_of_mem_scalarSlots h hentry
    cases hdigit : (Name.pascal entry.1.name).toList.head?.any Char.isDigit with
    | false => exact Or.inl ((Name.isIdentifier_pascal_iff haccepted).mpr hdigit)
    | true => exact Or.inr ⟨_, _, rfl, hdigit⟩
  · have hremark : s!"{(block.layout .wgsl).size} bytes".toList =
        Nat.toDigits 10 (block.layout .wgsl).size ++ " bytes".toList := by
      simp [toString]
    refine ⟨?_, hidentifier (h.blocks block hblock).1, List.forall_mem_map.mpr ?_⟩
    · rw [hremark]
      exact List.forall_mem_append.mpr ⟨hdigits _, isLineEnd_of_any_eq_false (by decide +kernel)⟩
    · exact (forall_fields_iff (motive := fun name => Name.isIdentifier name.toList)).mpr
        fun field hfield => hidentifier ((h.blocks block hblock).2 field hfield)
  · have hremark : s!"stride {input.layout.stride}".toList =
        "stride ".toList ++ Nat.toDigits 10 input.layout.stride := by
      simp [toString]
    refine ⟨?_, hidentifier (h.vertexInputs input hinput).1, List.forall_mem_map.mpr ?_⟩
    · rw [hremark]
      exact List.forall_mem_append.mpr ⟨isLineEnd_of_any_eq_false (by decide +kernel), hdigits _⟩
    · exact (forall_attributes_iff (motive := fun name => Name.isIdentifier name.toList)).mpr
        fun attr hattr => hidentifier ((h.vertexInputs input hinput).2 attr hattr)

end Shader

/-! ### Names of types -/

namespace Schema.WellFormed

variable {schema : Schema} {contract : Contract} {names : List String}

/-- Aliases are apart from one another and from the types that blocks and vertices need. -/
theorem nodup_aliasNames_append (hwell : schema.WellFormed) (hyields : schema.Yields contract)
    (hnames : names.Sublist schema.typeNames) :
    (contract.scalarSlots.map (fun entry => Name.pascal entry.1.name) ++ names).Nodup := by
  refine List.nodup_append.mpr ⟨Shader.nodup_aliasNames (hyields.wellNamed hwell),
    hwell.typeNames.sublist hnames, ?_⟩
  intro aliasName halias name hname
  obtain ⟨entry, hentry, rfl⟩ := List.mem_map.mp halias
  obtain ⟨⟨hslot, -⟩, hkind⟩ := Contract.mem_scalarSlots.mp hentry
  have hdeclared := hyields.slots.subset hslot
  exact (hwell.apartFromAliases name (hnames.subset hname) entry.1 hdeclared entry.2 hkind).symm

/-- So are enumerations of indices. -/
theorem nodup_enumNames_append (hwell : schema.WellFormed) {classes : List BindingClass}
    (hclasses : (classes.map BindingClass.enumName).Nodup)
    (hnames : names.Sublist schema.typeNames) :
    (classes.map BindingClass.enumName ++ names).Nodup := by
  refine List.nodup_append.mpr ⟨hclasses, hwell.typeNames.sublist hnames, ?_⟩
  intro enumName henum name hname
  obtain ⟨bindingClass, -, rfl⟩ := List.mem_map.mp henum
  exact (hwell.apartFromEnums name (hnames.subset hname) bindingClass).symm

/-- Nothing holds aliases against enumerations of indices, so that only these can share a name. -/
theorem nodup_typeNames_iff (hwell : schema.WellFormed) (hyields : schema.Yields contract)
    {classes : List BindingClass} (hclasses : (classes.map BindingClass.enumName).Nodup)
    (hnames : names.Sublist schema.typeNames) :
    (classes.map BindingClass.enumName ++
        (contract.scalarSlots.map (fun entry => Name.pascal entry.1.name) ++ names)).Nodup ↔
      ∀ entry ∈ contract.scalarSlots, ∀ bindingClass ∈ classes,
        Name.pascal entry.1.name ≠ bindingClass.enumName := by
  have haliases := hwell.nodup_aliasNames_append hyields hnames
  have henums := List.nodup_append.mp (hwell.nodup_enumNames_append hclasses hnames)
  rw [List.nodup_append, and_iff_right hclasses, and_iff_right haliases]
  constructor
  · intro hapart entry hentry bindingClass hclass heq
    refine hapart _ (List.mem_map_of_mem hclass) _ ?_ heq.symm
    exact List.mem_append_left _ (List.mem_map_of_mem hentry)
  · intro hclear enumName henum name hname
    rcases List.mem_append.mp hname with halias | hstruct
    · obtain ⟨entry, hentry, rfl⟩ := List.mem_map.mp halias
      obtain ⟨bindingClass, hclass, rfl⟩ := List.mem_map.mp henum
      exact (hclear entry hentry bindingClass hclass).symm
    · exact henums.2.2 enumName henum name hstruct

end Schema.WellFormed

end ShaderLayout
