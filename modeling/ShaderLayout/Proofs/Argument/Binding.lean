import ShaderLayout.Proofs.Argument.Coverage
import ShaderLayout.Proofs.Contract.Bindings

/-!
Argument tables that match a contract. An item is held against its slot alone,
so that a table may match although two items name one slot. A table that passes
on its own as well binds no slot twice: items of one slot would start at one
index, and no item takes up the index of the slot that another one names.
-/

namespace ShaderLayout

namespace ArgumentItem

/-- A slot of the item's class with the name that the item is bound by. -/
def Names (item : ArgumentItem) (slot : Slot) : Prop :=
  slot.bindingClass = item.bindingClass ∧ slot.name = item.bound.slot

variable {item first second : ArgumentItem} {contract : Contract} {slot other : Slot}

theorem Meets.symm (h : first.Meets second) : second.Meets first := by
  refine ⟨h.1.symm, ?_⟩
  rw [overlaps, Bool.and_comm]
  exact h.2

/-- An item takes up its own index. -/
theorem covers_self (h : 0 < item.count) : item.Covers item.bindingClass item.bound.index :=
  ⟨rfl, UInt32.le_refl _, Nat.lt_add_of_pos_right (UInt32.lt_iff_toNat_lt.mp h)⟩

/-- An item that does not meet another one does not take up its index. -/
theorem not_covers_of_not_meets (h : ¬first.Meets second) (hsecond : 0 < second.count) :
    ¬first.Covers second.bindingClass second.bound.index :=
  fun hcovers => h (meets_of_mem_shared ⟨hcovers, covers_self hsecond⟩)

/-! ### Slots -/

theorem slot?_eq_some_iff (h : contract.WellNamed) :
    contract.slot? item.bindingClass item.bound.slot = some slot ↔
      slot ∈ contract.slots ∧ item.Names slot := by
  rw [h.slot?_eq_some_iff, Contract.mem_slotsOf, Names, and_assoc]

/-- An item names no more than one slot. -/
theorem Names.unique (h : contract.WellNamed) (hslot : slot ∈ contract.slots)
    (hother : other ∈ contract.slots) (hnames : item.Names slot) (hnames' : item.Names other) :
    other = slot := by
  have hfind := (slot?_eq_some_iff h).mpr ⟨hslot, hnames⟩
  rw [(slot?_eq_some_iff h).mpr ⟨hother, hnames'⟩] at hfind
  exact Option.some.inj hfind

theorem checkSlot_eq_ok_iff (h : contract.WellNamed) :
    item.checkSlot contract = .ok () ↔
      ∃ slot ∈ contract.slots, item.Names slot ∧ slot.index = item.bound.index := by
  have hfind : (∃ slot ∈ contract.slots, item.Names slot ∧ slot.index = item.bound.index) ↔
      ∃ slot, contract.slot? item.bindingClass item.bound.slot = some slot ∧
        slot.index = item.bound.index := by
    simp only [slot?_eq_some_iff h, and_assoc]
  rw [hfind, checkSlot]
  cases contract.slot? item.bindingClass item.bound.slot with
  | none => exact iff_of_false nofun nofun
  | some slot =>
      by_cases hindex : slot.index = item.bound.index
      · simp [hindex]
      · simp [hindex]

end ArgumentItem

open ArgumentItem

theorem Contract.checkArguments_eq_ok_iff {contract : Contract} {items : List ArgumentItem}
    (h : contract.WellNamed) :
    contract.checkArguments items = .ok () ↔ ∀ item ∈ items,
      ∃ slot ∈ contract.slots, item.Names slot ∧ slot.index = item.bound.index := by
  rw [Contract.checkArguments, mapError_eq_ok_iff, forM_eq_ok_iff]
  simp only [checkSlot_eq_ok_iff h]

/-- In a table that passes and matches an accepted contract, each item has the index of the one slot
that it names, no two items name one slot, and no item takes up the index of the slot that another
one names. -/
theorem Schema.matching_tables_bind_once (schema : Schema) (contract : Contract)
    (h : schema.validate = .ok contract) (items : List ArgumentItem)
    (hpasses : checkArguments items = .ok ()) (hmatches : contract.checkArguments items = .ok ()) :
    (∀ item ∈ items, ∃ slot ∈ contract.slots, item.Names slot ∧
      slot.index = item.bound.index ∧ ∀ other ∈ contract.slots, item.Names other → other = slot) ∧
    (items.map fun item => (item.bindingClass, item.bound.slot)).Nodup ∧
    ∀ before item after, items = before ++ item :: after → ∀ other ∈ before ++ after,
      ∀ slot ∈ contract.slots, other.Names slot → ¬item.Covers slot.bindingClass slot.index := by
  have hnamed := wellNamed_of_validate h
  obtain ⟨hitems, hapart⟩ := checkArguments_eq_ok_iff.mp hpasses
  have hslots := (Contract.checkArguments_eq_ok_iff hnamed).mp hmatches
  refine ⟨fun item hitem => ?_, ?_, ?_⟩
  · obtain ⟨slot, hslot, hnames, hindex⟩ := hslots item hitem
    exact ⟨slot, hslot, hnames, hindex, fun other hother => hnames.unique hnamed hslot hother⟩
  · rw [List.nodup_iff_pairwise_ne, List.pairwise_map]
    refine hapart.imp_of_mem fun {first second} hfirst hsecond hmeets heq => ?_
    obtain ⟨hclass, hname⟩ := Prod.mk.inj heq
    obtain ⟨slot, hslot, hnames, hindex⟩ := hslots first hfirst
    obtain ⟨other, hother, hnames', hindex'⟩ := hslots second hsecond
    -- The second item names the slot of the first one, and so has its index.
    have hsame := hnames.unique hnamed hslot hother
      ⟨hnames'.1.trans hclass.symm, hnames'.2.trans hname.symm⟩
    refine not_covers_of_not_meets hmeets (hitems second hsecond).count ?_
    rw [← hclass, ← hindex', hsame, hindex]
    exact covers_self (hitems first hfirst).count
  · rintro before item after rfl other hother slot hslot hnames
    have hperm : (before ++ item :: after).Perm (item :: (before ++ after)) := List.perm_middle
    have hmeets : ¬item.Meets other :=
      List.rel_of_pairwise_cons (hperm.pairwise hapart fun hmeets => mt Meets.symm hmeets) hother
    have hmem := hperm.symm.subset (List.mem_cons_of_mem item hother)
    obtain ⟨own, hown, hnames', hindex⟩ := hslots other hmem
    rw [hnames'.unique hnamed hown hslot hnames, hnames'.1, hindex]
    exact not_covers_of_not_meets hmeets (hitems other hmem).count

/-! ### Arguments of meshes -/

namespace Schema

/-- The vertices, the frame, and three lights from the index of their count on. -/
def meshArguments : List ArgumentItem :=
  [⟨"vertices", .buffer, ⟨.buffer, 0, "vertices"⟩, .vertex, 1⟩,
    ⟨"frame", .buffer, ⟨.buffer, 1, "frame"⟩, .vertex, 4⟩,
    ⟨"lights", .buffer, ⟨.buffer, 5, "light_count"⟩, .fragment, 3⟩,
    ⟨"atlas", .texture, ⟨.texture, 0, "atlas"⟩, .fragment, 2⟩]

/-- The table passes, matches the contract of the meshes, and names four different slots. -/
theorem mesh_arguments_bind_once :
    meshes.validate = .ok meshesContract ∧ checkArguments meshArguments = .ok () ∧
      meshesContract.checkArguments meshArguments = .ok () ∧
      (meshArguments.map fun item => (item.bindingClass, item.bound.slot)).Nodup := by
  have hpasses : checkArguments meshArguments = .ok () := by decide
  have hmatches : meshesContract.checkArguments meshArguments = .ok () := by decide
  obtain ⟨-, hdistinct, -⟩ := matching_tables_bind_once meshes meshesContract validate_meshes
    meshArguments hpasses hmatches
  exact ⟨validate_meshes, hpasses, hmatches, hdistinct⟩

end Schema

end ShaderLayout
