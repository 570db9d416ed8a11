import ShaderLayout.Proofs.Schema.WellFormed
import ShaderLayout.Target.Text

/-!
The order in which slots are declared. A slot with an index of its own is the
same wherever its entry stands, so that such entries can change places with one
another as long as all others keep theirs. Schemas that differ in no more than
that are accepted together, and as one contract, although a faulty one may be
refused for another reason.
-/

namespace ShaderLayout

namespace SlotEntry

/-- The same entries in another order, in which entries without an index keep their places. -/
structure Reordered (first second : List SlotEntry) : Prop where
  perm : first.Perm second
  kept : ∀ (place : Nat) (entry : SlotEntry), entry.index = none →
    (first[place]? = some entry ↔ second[place]? = some entry)

theorem Reordered.refl (entries : List SlotEntry) : Reordered entries entries :=
  ⟨.refl entries, fun _ _ _ => Iff.rfl⟩

theorem Reordered.symm {first second : List SlotEntry} (h : Reordered first second) :
    Reordered second first :=
  ⟨h.perm.symm, fun place entry hindex => (h.kept place entry hindex).symm⟩

theorem declared_eq_of_index {entry : SlotEntry} (h : entry.index.isSome)
    (bindingClass : BindingClass) (place other : Nat) :
    entry.declared bindingClass place = entry.declared bindingClass other := by
  obtain ⟨index, hindex⟩ := Option.isSome_iff_exists.mp h
  rw [declared, declared, hindex]
  rfl

end SlotEntry

namespace Slot

theorem declaredFrom_eq_zipIdx (bindingClass : BindingClass) (place : Nat)
    (entries : List SlotEntry) :
    declaredFrom bindingClass place entries =
      (entries.zipIdx place).map fun (entry, place) => entry.declared bindingClass place := by
  induction entries generalizing place with
  | nil => rfl
  | cons entry entries ih => rw [declaredFrom, List.zipIdx_cons, List.map_cons, ih]

end Slot

namespace SlotEntry

/-- The entries with indices of their own. -/
def numbered (entries : List SlotEntry) : List SlotEntry :=
  entries.filter (·.index.isSome)

/-- The other entries, with the places that are their indices. -/
def placed (entries : List SlotEntry) : List (SlotEntry × Nat) :=
  entries.zipIdx.filter fun (entry, _) => !entry.index.isSome

theorem nodup_placed (entries : List SlotEntry) : (placed entries).Nodup := by
  have hplaces : (entries.zipIdx.map Prod.snd).Nodup := by
    rw [List.zipIdx_map_snd]
    exact List.nodup_range'
  exact hplaces.of_map.filter _

theorem mem_placed {entries : List SlotEntry} {entry : SlotEntry} {place : Nat} :
    (entry, place) ∈ placed entries ↔ entries[place]? = some entry ∧ entry.index = none := by
  rw [placed, List.mem_filter, List.mk_mem_zipIdx_iff_getElem?]
  simp

/-- Entries with indices of their own declare their slots whatever their places are. -/
theorem map_declared_filter_zipIdx (bindingClass : BindingClass) (entries : List SlotEntry) :
    ((entries.zipIdx.filter fun (entry, _) => entry.index.isSome).map
        fun (entry, place) => entry.declared bindingClass place) =
      (numbered entries).map (·.declared bindingClass 0) := by
  rw [numbered]
  conv_rhs => rw [← List.zipIdx_map_fst 0 entries, List.filter_map, List.map_map]
  refine List.map_congr_left fun ⟨entry, place⟩ hmem => ?_
  exact declared_eq_of_index (List.mem_filter.mp hmem).2 bindingClass place 0

/-- Slots of a class are those with indices of their own, and those that their places number. -/
theorem perm_declaredFrom (bindingClass : BindingClass) (entries : List SlotEntry) :
    (Slot.declaredFrom bindingClass 0 entries).Perm
      ((numbered entries).map (SlotEntry.declared · bindingClass 0) ++
        (placed entries).map fun (entry, place) =>
          SlotEntry.declared entry bindingClass place) := by
  rw [Slot.declaredFrom_eq_zipIdx, ← map_declared_filter_zipIdx, placed, ← List.map_append]
  exact (List.filter_append_perm _ _).symm.map _

variable {first second : List SlotEntry}

theorem Reordered.placed_perm (h : Reordered first second) :
    (placed first).Perm (placed second) := by
  rw [List.perm_ext_iff_of_nodup (nodup_placed first) (nodup_placed second)]
  rintro ⟨entry, place⟩
  rw [mem_placed, mem_placed]
  exact and_congr_left (h.kept place entry)

/-- Reordered entries declare the same slots, in another order. -/
theorem Reordered.declaredFrom_perm (h : Reordered first second) (bindingClass : BindingClass) :
    (Slot.declaredFrom bindingClass 0 first).Perm (Slot.declaredFrom bindingClass 0 second) := by
  have hnumbered : (numbered first).Perm (numbered second) := h.perm.filter _
  refine (perm_declaredFrom bindingClass first).trans ?_
  refine List.Perm.trans ?_ (perm_declaredFrom bindingClass second).symm
  exact (hnumbered.map _).append (h.placed_perm.map _)

end SlotEntry

namespace Schema

/-- Two schemas that differ only in the order of slots with indices of their own. -/
structure Reordered (first second : Schema) : Prop where
  name : first.name = second.name
  hostRules : first.hostRules = second.hostRules
  entries : ∀ bindingClass,
    SlotEntry.Reordered (first.entries bindingClass) (second.entries bindingClass)
  blocks : first.blocks = second.blocks
  vertexInputs : first.vertexInputs = second.vertexInputs

namespace Reordered

variable {first second : Schema} {contract : Contract}

theorem symm (h : first.Reordered second) : second.Reordered first where
  name := h.name.symm
  hostRules := h.hostRules.symm
  entries bindingClass := (h.entries bindingClass).symm
  blocks := h.blocks.symm
  vertexInputs := h.vertexInputs.symm

theorem declaredIn_perm (h : first.Reordered second) (bindingClass : BindingClass) :
    (first.declaredIn bindingClass).Perm (second.declaredIn bindingClass) :=
  (h.entries bindingClass).declaredFrom_perm bindingClass

theorem declared_perm (h : first.Reordered second) : first.declared.Perm second.declared :=
  List.Perm.flatMap_left _ fun bindingClass _ => h.declaredIn_perm bindingClass

theorem typeNames_eq (h : first.Reordered second) : first.typeNames = second.typeNames := by
  rw [Schema.typeNames, Schema.typeNames, h.blocks, h.vertexInputs]

theorem slotsWellFormed (h : first.Reordered second) {bindingClass : BindingClass}
    (hwell : first.SlotsWellFormed bindingClass) : second.SlotsWellFormed bindingClass := by
  have hperm := (h.entries bindingClass).perm
  refine ⟨fun entry hentry => ?_, fun entry hentry => ?_, ?_, ?_⟩
  · exact hwell.names entry (hperm.mem_iff.mpr hentry)
  · exact hwell.suited entry (hperm.mem_iff.mpr hentry)
  · exact (hperm.map _).nodup_iff.mp hwell.renderings
  · exact ((h.declaredIn_perm bindingClass).map _).nodup_iff.mp hwell.indices

/-- What makes a schema well formed depends on which slots there are, and not on their order. -/
theorem wellFormed (h : first.Reordered second) (hwell : first.WellFormed) : second.WellFormed where
  name := h.name ▸ hwell.name
  slots bindingClass := h.slotsWellFormed (hwell.slots bindingClass)
  blocks block hblock :=
    (hwell.blocks block (h.blocks ▸ hblock)).of_subset h.declared_perm.subset
  vertexInputs input hinput :=
    (hwell.vertexInputs input (h.vertexInputs ▸ hinput)).of_subset h.declared_perm.subset
  typeNames := h.typeNames_eq ▸ hwell.typeNames
  apartFromEnums := h.typeNames_eq ▸ hwell.apartFromEnums
  apartFromHostTypes := h.typeNames_eq ▸ hwell.apartFromHostTypes
  apartFromAliases typeName hname slot hslot :=
    hwell.apartFromAliases typeName (h.typeNames_eq ▸ hname) slot
      (h.declared_perm.mem_iff.mpr hslot)

theorem yields (h : first.Reordered second) (hyields : first.Yields contract) :
    second.Yields contract where
  name := hyields.name.trans h.name
  hostRules := hyields.hostRules.trans h.hostRules
  slots := hyields.slots.trans h.declared_perm
  ordered := hyields.ordered
  blocks := hyields.blocks.trans h.blocks
  vertexInputs := hyields.vertexInputs.trans h.vertexInputs

theorem validate_eq_ok (h : first.Reordered second) (hvalid : first.validate = .ok contract) :
    second.validate = .ok contract := by
  obtain ⟨hwell, hyields⟩ := validate_eq_ok_iff.mp hvalid
  exact validate_eq_ok_iff.mpr ⟨h.wellFormed hwell, h.yields hyields⟩

end Reordered

/-- Slots with indices of their own can be declared in any order: both schemas are refused, or both
are accepted as the same contract, of which every target writes the same text. -/
theorem numbered_slots_in_any_order (first second : Schema) (h : first.Reordered second) :
    (∀ contract, first.validate = .ok contract ↔ second.validate = .ok contract) ∧
      ∀ (target : Target) (schemaName : String) (schemaText : Option String) (text : String),
        (∃ contract, first.validate = .ok contract ∧
          target.text ⟨contract, schemaName, schemaText⟩ = .ok text) ↔
        ∃ contract, second.validate = .ok contract ∧
          target.text ⟨contract, schemaName, schemaText⟩ = .ok text := by
  have hvalid (contract : Contract) :
      first.validate = .ok contract ↔ second.validate = .ok contract :=
    ⟨h.validate_eq_ok, h.symm.validate_eq_ok⟩
  refine ⟨hvalid, fun target schemaName schemaText text => ?_⟩
  simp only [hvalid]

/-- The buffers of meshes with an index for the vertices. The frame has none, and stands between
the others in either order. -/
def numberedBuffers : List SlotEntry :=
  [{ name := "vertices", index := some 0, scalar := none, isVertex := true },
    .ofName "frame",
    { name := "light_count", index := some 5, scalar := some .uint, isVertex := false }]

theorem reordered_reverse_numberedBuffers :
    SlotEntry.Reordered numberedBuffers numberedBuffers.reverse where
  perm := (List.reverse_perm _).symm
  kept := by
    rintro (_ | _ | _ | place) entry hindex
    · constructor <;> rintro ⟨⟩ <;> cases hindex
    · exact Iff.rfl
    · constructor <;> rintro ⟨⟩ <;> cases hindex
    · exact Iff.rfl

theorem meshes_in_any_order :
    ∃ first second : Schema, first ≠ second ∧ first.Reordered second ∧
      first.validate = .ok meshesContract ∧ second.validate = .ok meshesContract := by
  have hreordered : Reordered { meshes with buffers := numberedBuffers }
      { meshes with buffers := numberedBuffers.reverse } :=
    { name := rfl
      hostRules := rfl
      entries := by
        rintro (_ | _ | _)
        · exact reordered_reverse_numberedBuffers
        · exact SlotEntry.Reordered.refl _
        · exact SlotEntry.Reordered.refl _
      blocks := rfl
      vertexInputs := rfl }
  have hvalid : validate { meshes with buffers := numberedBuffers } = .ok meshesContract :=
    validate_eq_ok_iff.mpr ⟨by decide +kernel, rfl, rfl, by decide, by decide, rfl, rfl⟩
  refine ⟨_, _, by decide, hreordered, hvalid, ?_⟩
  exact ((numbered_slots_in_any_order _ _ hreordered).1 meshesContract).mp hvalid

end Schema

end ShaderLayout
