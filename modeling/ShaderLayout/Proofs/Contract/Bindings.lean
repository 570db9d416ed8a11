import ShaderLayout.Contract.Check
import ShaderLayout.Proofs.Shader.Naming

/-!
Bindings of a contract: the name of each slot of a class with its index. Within
a class of an accepted contract names are distinct and slots stand in the order
of their indices, so that a table of bindings is that of the class as soon as
it has as many entries, all of them different and all of them found.
-/

namespace ShaderLayout

/-- The name of a slot with its index, as tables of bindings list it. -/
def Slot.binding (slot : Slot) : String × UInt32 := (slot.name, slot.index)

namespace Contract

/-- The bindings of a class, by index. -/
def bindingsOf (contract : Contract) (bindingClass : BindingClass) : List (String × UInt32) :=
  (contract.slotsOf bindingClass).map Slot.binding

@[simp] theorem length_bindingsOf (contract : Contract) (bindingClass : BindingClass) :
    (contract.bindingsOf bindingClass).length = (contract.slotsOf bindingClass).length :=
  List.length_map _

theorem map_fst_bindingsOf (contract : Contract) (bindingClass : BindingClass) :
    (contract.bindingsOf bindingClass).map Prod.fst =
      (contract.slotsOf bindingClass).map (·.name) :=
  List.map_map

variable {contract : Contract} {bindingClass : BindingClass}

theorem WellNamed.nodup_pascal_slotsOf (h : contract.WellNamed) (bindingClass : BindingClass) :
    ((contract.slotsOf bindingClass).map fun slot => Name.pascal slot.name).Nodup := by
  rw [List.nodup_iff_pairwise_ne, List.pairwise_map]
  refine (h.slotsApart.filter _).imp_of_mem fun hfirst hsecond hapart => hapart ?_
  rw [(mem_slotsOf.mp hfirst).2, (mem_slotsOf.mp hsecond).2]

theorem WellNamed.nodup_name_slotsOf (h : contract.WellNamed) (bindingClass : BindingClass) :
    ((contract.slotsOf bindingClass).map (·.name)).Nodup :=
  nodup_map_of_renderings (h.nodup_pascal_slotsOf bindingClass)

theorem WellNamed.nodup_bindingsOf (h : contract.WellNamed) (bindingClass : BindingClass) :
    (contract.bindingsOf bindingClass).Nodup := by
  apply List.Nodup.of_map Prod.fst
  rw [map_fst_bindingsOf]
  exact h.nodup_name_slotsOf bindingClass

/-- A name finds the one slot of the class that has it. -/
theorem WellNamed.slot?_eq_some_iff (h : contract.WellNamed) {name : String} {slot : Slot} :
    contract.slot? bindingClass name = some slot ↔
      slot ∈ contract.slotsOf bindingClass ∧ slot.name = name := by
  constructor
  · intro hfind
    exact ⟨List.mem_of_find?_eq_some hfind, by simpa using List.find?_some hfind⟩
  · rintro ⟨hslot, rfl⟩
    exact find?_name_of_mem (h.nodup_name_slotsOf bindingClass) hslot

variable {side name : String} {index : UInt32} {declared : List (String × UInt32)}

theorem WellNamed.mem_bindingsOf_iff (h : contract.WellNamed) :
    (name, index) ∈ contract.bindingsOf bindingClass ↔
      ∃ slot, contract.slot? bindingClass name = some slot ∧ slot.index = index := by
  simp only [bindingsOf, List.mem_map, Slot.binding, Prod.mk.injEq, h.slot?_eq_some_iff, and_assoc]

/-! ### Checks of declared bindings -/

theorem WellNamed.checkBinding_eq_ok_iff (h : contract.WellNamed) :
    contract.checkBinding bindingClass side name index = .ok () ↔
      (name, index) ∈ contract.bindingsOf bindingClass := by
  rw [h.mem_bindingsOf_iff, checkBinding]
  cases contract.slot? bindingClass name with
  | none => exact iff_of_false nofun nofun
  | some slot =>
      by_cases hindex : slot.index = index
      · simp [hindex]
      · simp [hindex]

/-- Declared bindings pass when all of them are found and they are as many as there are slots. -/
theorem WellNamed.checkBindings_eq_ok_iff (h : contract.WellNamed) :
    contract.checkBindings bindingClass declared side = .ok () ↔
      declared ⊆ contract.bindingsOf bindingClass ∧
        declared.length = (contract.bindingsOf bindingClass).length := by
  rw [checkBindings, bind_eq_ok_iff, length_bindingsOf]
  constructor
  · rintro ⟨_, hfound, hcount⟩
    refine ⟨fun binding hbinding => ?_, ?_⟩
    · exact h.checkBinding_eq_ok_iff.mp (forM_eq_ok_iff.mp hfound binding hbinding)
    · by_contra hne
      rw [if_pos hne] at hcount
      cases hcount
  · rintro ⟨hfound, hcount⟩
    refine ⟨(), forM_eq_ok_iff.mpr fun binding hbinding => ?_, ?_⟩
    · exact h.checkBinding_eq_ok_iff.mpr (hfound hbinding)
    · rw [if_neg (not_not.mpr hcount)]
      rfl

/-- Declared bindings are those of the class, in some order, when they pass and none is declared
twice. -/
theorem WellNamed.perm_bindingsOf_iff (h : contract.WellNamed) :
    declared.Perm (contract.bindingsOf bindingClass) ↔
      contract.checkBindings bindingClass declared side = .ok () ∧ declared.Nodup := by
  rw [h.checkBindings_eq_ok_iff]
  constructor
  · intro hperm
    exact ⟨⟨hperm.subset, hperm.length_eq⟩, hperm.nodup_iff.mpr (h.nodup_bindingsOf bindingClass)⟩
  · rintro ⟨⟨hfound, hcount⟩, hdistinct⟩
    exact (List.subperm_of_subset hdistinct hfound).perm_of_length_le hcount.ge

/-- Where no name is declared twice, counting is enough to see that no slot is left out. -/
theorem WellNamed.checkBindings_eq_ok_iff_of_nodup (h : contract.WellNamed)
    (hdeclared : (declared.map Prod.fst).Nodup) :
    contract.checkBindings bindingClass declared side = .ok () ↔
      ∀ binding, binding ∈ contract.bindingsOf bindingClass ↔ binding ∈ declared := by
  have hdistinct : declared.Nodup := hdeclared.of_map
  rw [← List.perm_ext_iff_of_nodup (h.nodup_bindingsOf bindingClass) hdistinct, List.perm_comm,
    h.perm_bindingsOf_iff, and_iff_left hdistinct]

end Contract

namespace Schema.Yields

/-- Bindings of a class come by index, so that a class is known by which bindings it has. -/
theorem bindingsOf_eq {schema other : Schema} {contract second : Contract}
    (h : schema.Yields contract) (h' : other.Yields second) {bindingClass : BindingClass}
    (hnamed : contract.WellNamed) (hnamed' : second.WellNamed)
    (hsame : ∀ binding, binding ∈ contract.bindingsOf bindingClass ↔
      binding ∈ second.bindingsOf bindingClass) :
    contract.bindingsOf bindingClass = second.bindingsOf bindingClass := by
  have hordered {schema : Schema} {contract : Contract} (h : schema.Yields contract) :
      (contract.bindingsOf bindingClass).Pairwise fun first second => first.2 < second.2 := by
    rw [Contract.bindingsOf, List.pairwise_map]
    refine (h.ordered.filter _).imp_of_mem fun hfirst hsecond hbefore => ?_
    have hclass := (Contract.mem_slotsOf.mp hfirst).2.trans (Contract.mem_slotsOf.mp hsecond).2.symm
    rcases hbefore with hrank | ⟨-, hindex⟩
    · rw [hclass] at hrank
      exact absurd hrank (Nat.lt_irrefl _)
    · exact hindex
  -- Distinct entries of lists in strict order leave no choice but one list.
  have hperm := (List.perm_ext_iff_of_nodup (hnamed.nodup_bindingsOf bindingClass)
    (hnamed'.nodup_bindingsOf bindingClass)).mpr hsame
  refine hperm.eq_of_pairwise (fun first second _ _ hlt hgt => ?_) (hordered h) (hordered h')
  exact absurd hgt (UInt32.lt_asymm hlt)

end Schema.Yields

/-! ### Tables with repetitions -/

/-- Declared bindings pass exactly when each is a slot with its index and they are as many as the
slots. They are then the bindings of the class when none is declared twice; a binding that is
declared twice stands for one that is left out. -/
theorem Schema.declared_bindings_pass_iff (schema : Schema) (contract : Contract)
    (h : schema.validate = .ok contract) (bindingClass : BindingClass)
    (declared : List (String × UInt32)) (side : String) :
    (contract.checkBindings bindingClass declared side = .ok () ↔
      declared ⊆ contract.bindingsOf bindingClass ∧
        declared.length = (contract.bindingsOf bindingClass).length) ∧
    (declared.Perm (contract.bindingsOf bindingClass) ↔
      contract.checkBindings bindingClass declared side = .ok () ∧ declared.Nodup) ∧
    (contract.checkBindings bindingClass declared side = .ok () →
      (declared.Nodup ↔ contract.bindingsOf bindingClass ⊆ declared)) := by
  have hnamed := Schema.wellNamed_of_validate h
  refine ⟨hnamed.checkBindings_eq_ok_iff, hnamed.perm_bindingsOf_iff, fun hpass => ?_⟩
  constructor
  · intro hdistinct
    exact (hnamed.perm_bindingsOf_iff.mpr ⟨hpass, hdistinct⟩).symm.subset
  · intro hall
    have hcount := (hnamed.checkBindings_eq_ok_iff.mp hpass).2
    have hperm := (List.subperm_of_subset (hnamed.nodup_bindingsOf bindingClass)
      hall).perm_of_length_le hcount.le
    exact hperm.nodup_iff.mp (hnamed.nodup_bindingsOf bindingClass)

/-- A table that declares the vertices twice passes, although it does not declare the frame. -/
theorem Schema.repeated_vertices_pass :
    let declared : List (String × UInt32) := [("vertices", 0), ("vertices", 0), ("light_count", 5)]
    meshes.validate = .ok meshesContract ∧
      meshesContract.checkBindings .buffer declared "host" = .ok () ∧
      ¬declared.Nodup ∧ ¬declared.Perm (meshesContract.bindingsOf .buffer) ∧
      ¬meshesContract.bindingsOf .buffer ⊆ declared := by
  intro declared
  obtain ⟨hpass, hperm, hall⟩ :=
    declared_bindings_pass_iff meshes meshesContract validate_meshes .buffer declared "host"
  have hpasses := hpass.mpr (by decide)
  have hrepeated : ¬declared.Nodup := by decide
  exact ⟨validate_meshes, hpasses, hrepeated, fun h => hrepeated (hperm.mp h).2,
    fun h => hrepeated ((hall hpasses).mpr h)⟩

end ShaderLayout
