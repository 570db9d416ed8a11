import ShaderLayout.Bindings.Printer
import ShaderLayout.Proofs.Host.Tables

/-!
Names of the types that the bindings declare. Structures are held against all
names in use, so they never clash with anything. Aliases are themselves among
the names in use, and nothing holds them against the others: an alias can have
the name of an enumeration of indices, or of a host type, which it then hides.
-/

namespace ShaderLayout

namespace Bindings

/-! ### Names of host types -/

/-- The name of a type that the bindings take from the crate that they are included in. -/
def IsHostType (name : String) : Prop :=
  ∃ type, hostType type = "crate::" ++ name

instance (name : String) : Decidable (IsHostType name) :=
  decidable_of_iff (∃ type ∈ FieldType.all, hostType type = "crate::" ++ name)
    ⟨fun ⟨type, _, h⟩ => ⟨type, h⟩, fun ⟨type, h⟩ => ⟨type, type.mem_all, h⟩⟩

/-- A host type has the name of its field type. -/
theorem IsHostType.exists_type {name : String} (h : IsHostType name) :
    ∃ type : FieldType, name = Name.pascal type.name := by
  obtain ⟨type, h⟩ := h
  have hhead : (hostType type).toList.head? = some 'c' := by
    rw [h, String.toList_append]
    rfl
  have hcrate : hostType type = "crate::" ++ Name.pascal type.name := by
    cases type
    case float | int | uint => cases hhead
    all_goals rfl
  exact ⟨type, (String.append_right_inj "crate::").mp (h.symm.trans hcrate)⟩

/-! ### Names of all types -/

def enumNames (bindings : Bindings) : List String :=
  bindings.enums.map (·.bindingClass.enumName)

def aliasNames (bindings : Bindings) : List String :=
  bindings.aliases.map (·.2.1)

def structNames (bindings : Bindings) : List String :=
  bindings.blocks.map (·.layout.name) ++ bindings.vertices.map (·.layout.name)

theorem typeNames_eq (bindings : Bindings) :
    bindings.typeNames = bindings.enumNames ++ bindings.aliasNames ++ bindings.structNames :=
  List.append_assoc _ _ _

namespace Renders

variable {contract : Contract} {bindings : Bindings}

theorem enumNames_eq (h : bindings.Renders contract) :
    bindings.enumNames = BindingClass.all.map BindingClass.enumName := by
  rw [enumNames, h.enums]
  rfl

theorem aliasNames_eq (h : bindings.Renders contract) :
    bindings.aliasNames = contract.scalarSlots.map fun entry => Name.pascal entry.1.name := by
  rw [aliasNames, h.aliases, List.map_map]
  rfl

theorem structNames_eq (h : bindings.Renders contract) :
    bindings.structNames = contract.structNames := by
  have hblocks : contract.blocks.map (·.name) = bindings.blocks.map (·.layout.name) :=
    map_eq_map_of_forall₂ <| h.blocks.imp fun block struct hstruct => by
      rw [hstruct.layout]
      rfl
  have hvertices : contract.vertexInputs.map (·.name) = bindings.vertices.map (·.layout.name) :=
    map_eq_map_of_forall₂ <| h.vertices.imp fun input struct hstruct => by
      rw [hstruct.layout]
      rfl
  rw [structNames, Contract.structNames, hblocks, hvertices]

end Renders

end Bindings

/-! ### What clashes -/

theorem BindingClass.not_isHostType_enumName (bindingClass : BindingClass) :
    ¬Bindings.IsHostType bindingClass.enumName := by
  cases bindingClass <;> decide +kernel

namespace Schema

open Bindings

variable {schema : Schema} {contract : Contract}

theorem WellFormed.not_isHostType_structNames (hwell : schema.WellFormed)
    (hyields : schema.Yields contract) : ∀ name ∈ contract.structNames, ¬IsHostType name := by
  intro name hname hhost
  obtain ⟨type, rfl⟩ := hhost.exists_type
  exact hwell.apartFromHostTypes _ (hyields.structNames_sublist.subset hname) type rfl

/-- The types of the bindings of an accepted contract clash only in aliases: with an enumeration of
indices, so that a name is declared twice, or with a host type, which the alias then hides. -/
theorem bindings_types_apart_iff (schema : Schema) (contract : Contract)
    (h : schema.validate = .ok contract) :
    ∃ bindings, ofContract contract = .ok bindings ∧
      (bindings.enumNames ++ bindings.structNames).Nodup ∧
      (bindings.aliasNames ++ bindings.structNames).Nodup ∧
      (∀ name ∈ bindings.enumNames ++ bindings.structNames, ¬IsHostType name) ∧
      (bindings.typeNames.Nodup ↔ ∀ entry ∈ contract.scalarSlots, ∀ bindingClass : BindingClass,
        Name.pascal entry.1.name ≠ bindingClass.enumName) ∧
      ((∀ name ∈ bindings.typeNames, ¬IsHostType name) ↔
        ∀ entry ∈ contract.scalarSlots, ¬IsHostType (Name.pascal entry.1.name)) := by
  obtain ⟨hwell, hyields⟩ := validate_eq_ok_iff.mp h
  obtain ⟨bindings, hbindings, hrenders⟩ := exists_renders h
  have hsublist := hyields.structNames_sublist
  have hstructs := hwell.not_isHostType_structNames hyields
  have henums : ∀ name ∈ BindingClass.all.map BindingClass.enumName, ¬IsHostType name :=
    List.forall_mem_map.mpr fun bindingClass _ => bindingClass.not_isHostType_enumName
  refine ⟨bindings, hbindings, ?_⟩
  rw [bindings.typeNames_eq, hrenders.enumNames_eq, hrenders.aliasNames_eq,
    hrenders.structNames_eq]
  refine ⟨hwell.nodup_enumNames_append BindingClass.nodup_enumNames hsublist,
    hwell.nodup_aliasNames_append hyields hsublist,
    List.forall_mem_append.mpr ⟨henums, hstructs⟩, ?_, ?_⟩
  · rw [List.append_assoc,
      hwell.nodup_typeNames_iff hyields BindingClass.nodup_enumNames hsublist]
    exact forall₂_congr fun entry _ =>
      ⟨fun hclear bindingClass => hclear bindingClass bindingClass.mem_all,
        fun hclear bindingClass _ => hclear bindingClass⟩
  · rw [List.forall_mem_append, List.forall_mem_append, and_iff_right henums,
      and_iff_left hstructs, List.forall_mem_map]

/-- Two scalars, with the names of an enumeration and of a host type. -/
def shadowing : Schema where
  name := "Shadowing"
  hostRules := .metal
  buffers := [{ name := "buffer_index", index := none, scalar := some .uint, isVertex := false },
    { name := "float4", index := none, scalar := some .float4, isVertex := false }]
  textures := []
  samplers := []
  blocks := []
  vertexInputs := []

def shadowingContract : Contract where
  name := "Shadowing"
  hostRules := .metal
  slots := [⟨"buffer_index", .buffer, 0, .scalar .uint⟩, ⟨"float4", .buffer, 1, .scalar .float4⟩]
  blocks := []
  vertexInputs := []

theorem validate_shadowing : shadowing.validate = .ok shadowingContract := by
  refine validate_eq_ok_iff.mpr ⟨by decide +kernel, ?_⟩
  exact ⟨rfl, rfl, by decide, by decide, rfl, rfl⟩

/-- One name is declared twice, and an alias stands for itself. -/
theorem shadowing_types_clash :
    shadowing.validate = .ok shadowingContract ∧
      ∃ bindings, ofContract shadowingContract = .ok bindings ∧ ¬bindings.typeNames.Nodup ∧
        (∃ name ∈ bindings.typeNames, IsHostType name) ∧
        ∃ entry ∈ bindings.aliases, hostType entry.2.2 = "crate::" ++ entry.2.1 := by
  obtain ⟨bindings, hbindings, -, -, -, hnodup, hhost⟩ :=
    bindings_types_apart_iff shadowing shadowingContract validate_shadowing
  refine ⟨validate_shadowing, bindings, hbindings, ?_, ?_, ?_⟩
  · intro hapart
    exact absurd (hnodup.mp hapart _ List.mem_cons_self .buffer) (by decide +kernel)
  · by_contra hnone
    rw [not_exists] at hnone
    exact absurd (hhost.mp fun name hname hmet => hnone name ⟨hname, hmet⟩) (by decide +kernel)
  · cases hbindings
    decide +kernel

end Schema

end ShaderLayout
