import Mathlib.Data.List.Nodup
import Mathlib.Data.List.Perm.Basic
import ShaderLayout.Proofs.Checks
import ShaderLayout.Proofs.Name.Rendering
import ShaderLayout.Schema.Validate

/-!
The slots that a schema declares, said without checking them: each entry gives
one slot, with its own index or its place. Checking a class returns exactly
these slots, and does so when the entries suit the class and no two of them
share a rendering or an index. Slots of a contract are the same ones by class
and index.
-/

namespace ShaderLayout

theorem BindingClass.mem_all (bindingClass : BindingClass) : bindingClass ∈ all := by
  cases bindingClass <;> decide

theorem checkName_eq_ok_iff {name : String} : checkName name = .ok () ↔ Name.isAccepted name := by
  rw [checkName]
  split <;> simp [*]

/-- Where renderings are distinct, so are names. -/
theorem nodup_map_of_renderings {α : Type} {items : List α} {name : α → String}
    {render : String → String} (h : (items.map fun item => render (name item)).Nodup) :
    (items.map name).Nodup := by
  rw [← Function.comp_def render, ← List.map_map] at h
  exact h.of_map

namespace SlotEntry

/-- Only buffers hold single values or vertices, and no slot holds both. -/
def Suits (entry : SlotEntry) (bindingClass : BindingClass) : Prop :=
  (entry.scalar.isSome ∨ entry.isVertex → bindingClass = .buffer) ∧
    ¬(entry.scalar.isSome ∧ entry.isVertex)

instance (entry : SlotEntry) (bindingClass : BindingClass) :
    Decidable (entry.Suits bindingClass) :=
  inferInstanceAs (Decidable (_ ∧ _))

/-- What a slot holds that suits its class. -/
def content (entry : SlotEntry) : BindingClass → SlotKind
  | .buffer => match entry.scalar, entry.isVertex with
    | some type, _ => .scalar type
    | none, true => .vertex
    | none, false => .block
  | _ => .resource

/-- The slot at a place, whether it suits its class or not. -/
def declared (entry : SlotEntry) (bindingClass : BindingClass) (place : Nat) : Slot :=
  { name := entry.name
    bindingClass := bindingClass
    index := entry.index.getD (UInt32.ofNat place)
    kind := entry.content bindingClass }

theorem kind_eq_ok_iff {entry : SlotEntry} {bindingClass : BindingClass} {kind : SlotKind} :
    entry.kind bindingClass = .ok kind ↔
      entry.Suits bindingClass ∧ kind = entry.content bindingClass := by
  obtain ⟨name, index, scalar, isVertex⟩ := entry
  cases bindingClass <;> cases scalar <;> cases isVertex <;>
    simp [SlotEntry.kind, Suits, content, eq_comm]

theorem slot_eq_ok_iff {entry : SlotEntry} {bindingClass : BindingClass} {place : Nat}
    {slot : Slot} :
    entry.slot bindingClass place = .ok slot ↔
      entry.Suits bindingClass ∧ Name.isAccepted entry.name ∧
        slot = entry.declared bindingClass place := by
  rw [SlotEntry.slot, bind_eq_ok_iff]
  constructor
  · rintro ⟨kind, hkind, h⟩
    obtain ⟨_, hname, hslot⟩ := bind_eq_ok_iff.mp h
    obtain ⟨hsuits, rfl⟩ := kind_eq_ok_iff.mp (mapError_eq_ok_iff.mp hkind)
    exact ⟨hsuits, checkName_eq_ok_iff.mp hname, (Except.ok.inj hslot).symm⟩
  · rintro ⟨hsuits, hname, rfl⟩
    refine ⟨entry.content bindingClass, ?_, ?_⟩
    · exact mapError_eq_ok_iff.mpr (kind_eq_ok_iff.mpr ⟨hsuits, rfl⟩)
    · exact bind_eq_ok_iff.mpr ⟨(), checkName_eq_ok_iff.mpr hname, rfl⟩

end SlotEntry

namespace Slot

/-- Two slots that can stand in one class. -/
def Distinct (first second : Slot) : Prop :=
  Name.pascal first.name ≠ Name.pascal second.name ∧ first.index ≠ second.index

theorem Distinct.symm {first second : Slot} (h : first.Distinct second) : second.Distinct first :=
  ⟨h.1.symm, h.2.symm⟩

theorem sharing?_isSome {β : Type} [BEq β] [LawfulBEq β] {earlier : List Slot}
    {property : Slot → β} {slot : Slot} :
    (sharing? earlier property slot).isSome ↔
      ∃ other ∈ earlier, property other = property slot := by
  rw [sharing?, List.find?_isSome]
  simp only [beq_iff_eq]

/-- Names and renderings in capitals need no check of their own: where two of them are the same, so
are the Pascal renderings. -/
theorem checkDistinct_eq_ok_iff {earlier : List Slot} {slot : Slot} :
    slot.checkDistinct earlier = .ok () ↔ ∀ other ∈ earlier, other.Distinct slot := by
  rw [checkDistinct]
  simp only [guard_eq_ok_iff, sharing?_isSome, not_exists, not_and]
  constructor
  · rintro ⟨-, hpascal, -, hindex⟩ other hother
    refine ⟨hpascal other hother, fun heq => ?_⟩
    obtain ⟨first, hfirst⟩ := Option.isSome_iff_exists.mp (sharing?_isSome.mpr ⟨other, hother, heq⟩)
    rw [hfirst] at hindex
    cases hindex
  · intro h
    have hpascal : ∀ other ∈ earlier, Name.pascal other.name ≠ Name.pascal slot.name :=
      fun other hother => (h other hother).1
    refine ⟨fun other hother heq => hpascal other hother (congrArg Name.pascal heq), hpascal,
      fun other hother heq => hpascal other hother (Name.pascal_eq_of_shouty_eq heq), ?_⟩
    cases hshared : sharing? earlier Slot.index slot with
    | none => rfl
    | some first =>
        obtain ⟨other, hother, heq⟩ :=
          sharing?_isSome.mp (Option.isSome_iff_exists.mpr ⟨first, hshared⟩)
        exact absurd heq (h other hother).2

/-- The slots of entries that stand at places from `place` on. -/
def declaredFrom (bindingClass : BindingClass) : Nat → List SlotEntry → List Slot
  | _, [] => []
  | place, entry :: entries =>
    entry.declared bindingClass place :: declaredFrom bindingClass (place + 1) entries

theorem declareAll_eq_ok_iff {bindingClass : BindingClass} {earlier slots : List Slot}
    {entries : List SlotEntry} :
    declareAll bindingClass earlier entries = .ok slots ↔
      (∀ entry ∈ entries, entry.Suits bindingClass ∧ Name.isAccepted entry.name) ∧
      (declaredFrom bindingClass earlier.length entries).Pairwise Distinct ∧
      (∀ other ∈ earlier, ∀ slot ∈ declaredFrom bindingClass earlier.length entries,
        other.Distinct slot) ∧
      slots = earlier ++ declaredFrom bindingClass earlier.length entries := by
  -- The place of an entry is the number of slots before it.
  induction entries generalizing earlier with
  | nil =>
      rw [declareAll, declaredFrom, List.append_nil]
      constructor
      · intro h
        exact ⟨nofun, .nil, fun _ _ => nofun, (Except.ok.inj h).symm⟩
      · rintro ⟨-, -, -, rfl⟩
        rfl
  | cons entry entries ih =>
      rw [declareAll, declaredFrom]
      simp only [bind_eq_ok_iff, SlotEntry.slot_eq_ok_iff, ih, List.length_append,
        List.length_singleton, List.forall_mem_cons, List.pairwise_cons]
      constructor
      · rintro ⟨_, ⟨hsuits, hname, rfl⟩, _, hdistinct, hentries, hpairwise, hearlier, rfl⟩
        have hdistinct := checkDistinct_eq_ok_iff.mp hdistinct
        obtain ⟨hbefore, hslot⟩ := List.forall_mem_append.mp hearlier
        refine ⟨⟨⟨hsuits, hname⟩, hentries⟩, ⟨?_, hpairwise⟩, ?_, by simp⟩
        · exact List.forall_mem_singleton.mp hslot
        · exact fun other hother => ⟨hdistinct other hother, hbefore other hother⟩
      · rintro ⟨⟨⟨hsuits, hname⟩, hentries⟩, ⟨hslot, hpairwise⟩, hearlier, rfl⟩
        refine ⟨_, ⟨hsuits, hname, rfl⟩, (), ?_, hentries, hpairwise, ?_, by simp⟩
        · exact checkDistinct_eq_ok_iff.mpr fun other hother => (hearlier other hother).1
        · refine List.forall_mem_append.mpr ⟨fun other hother => (hearlier other hother).2, ?_⟩
          exact List.forall_mem_singleton.mpr hslot

theorem map_name_declaredFrom (bindingClass : BindingClass) (place : Nat)
    (entries : List SlotEntry) :
    (declaredFrom bindingClass place entries).map (·.name) = entries.map (·.name) := by
  induction entries generalizing place with
  | nil => rfl
  | cons entry entries ih => simp [declaredFrom, SlotEntry.declared, ih]

theorem bindingClass_of_mem_declaredFrom {bindingClass : BindingClass} {place : Nat}
    {entries : List SlotEntry} {slot : Slot}
    (h : slot ∈ declaredFrom bindingClass place entries) : slot.bindingClass = bindingClass := by
  induction entries generalizing place with
  | nil => cases h
  | cons entry entries ih =>
      rcases List.mem_cons.mp h with rfl | h
      · rfl
      · exact ih h

/-- One slot comes before another: by class, then by index. -/
def Before (first second : Slot) : Prop :=
  first.bindingClass.rank < second.bindingClass.rank ∨
    first.bindingClass = second.bindingClass ∧ first.index < second.index

instance (first second : Slot) : Decidable (first.Before second) :=
  inferInstanceAs (Decidable (_ ∨ _))

theorem Before.asymm {first second : Slot} (h : first.Before second) : ¬second.Before first := by
  rintro (hrank | ⟨hclass, hindex⟩) <;> rcases h with hrank' | ⟨hclass', hindex'⟩
  · exact Nat.lt_asymm hrank hrank'
  · exact Nat.lt_irrefl _ (hclass' ▸ hrank)
  · exact Nat.lt_irrefl _ (hclass ▸ hrank')
  · exact UInt32.lt_asymm hindex hindex'

theorem rank_injective {first second : BindingClass} (h : first.rank = second.rank) :
    first = second := by
  cases first <;> cases second <;> first | rfl | cases h

theorem precedes_eq_true_iff {first second : Slot} :
    first.precedes second ↔ first.bindingClass.rank < second.bindingClass.rank ∨
      first.bindingClass = second.bindingClass ∧ first.index ≤ second.index := by
  simp only [precedes, Bool.or_eq_true, Bool.and_eq_true, decide_eq_true_eq, beq_iff_eq]
  constructor
  · exact Or.imp_right (And.imp_left rank_injective)
  · exact Or.imp_right (And.imp_left (congrArg BindingClass.rank))

theorem precedes_trans (first second third : Slot) (h : first.precedes second)
    (h' : second.precedes third) : first.precedes third := by
  rw [precedes_eq_true_iff] at h h' ⊢
  rcases h with hrank | ⟨hclass, hindex⟩ <;> rcases h' with hrank' | ⟨hclass', hindex'⟩
  · exact Or.inl (Nat.lt_trans hrank hrank')
  · exact Or.inl (hclass' ▸ hrank)
  · exact Or.inl (hclass ▸ hrank')
  · exact Or.inr ⟨hclass.trans hclass', UInt32.le_trans hindex hindex'⟩

theorem precedes_total (first second : Slot) :
    (first.precedes second || second.precedes first) = true := by
  rw [Bool.or_eq_true, precedes_eq_true_iff, precedes_eq_true_iff]
  rcases Nat.lt_trichotomy first.bindingClass.rank second.bindingClass.rank with h | h | h
  · exact Or.inl (Or.inl h)
  · have hclass := rank_injective h
    rcases UInt32.le_total first.index second.index with hindex | hindex
    · exact Or.inl (Or.inr ⟨hclass, hindex⟩)
    · exact Or.inr (Or.inr ⟨hclass.symm, hindex⟩)
  · exact Or.inr (Or.inl h)

end Slot

namespace Schema

/-- The slots that a schema declares in a class, in its order. -/
def declaredIn (schema : Schema) (bindingClass : BindingClass) : List Slot :=
  Slot.declaredFrom bindingClass 0 (schema.entries bindingClass)

/-- All slots that a schema declares, in its order. -/
def declared (schema : Schema) : List Slot :=
  BindingClass.all.flatMap schema.declaredIn

/-- What has to hold of the entries of a class. -/
structure SlotsWellFormed (schema : Schema) (bindingClass : BindingClass) : Prop where
  names : ∀ entry ∈ schema.entries bindingClass, Name.isAccepted entry.name
  suited : ∀ entry ∈ schema.entries bindingClass, entry.Suits bindingClass
  renderings : ((schema.entries bindingClass).map fun entry => Name.pascal entry.name).Nodup
  indices : ((schema.declaredIn bindingClass).map (·.index)).Nodup

instance (schema : Schema) (bindingClass : BindingClass) :
    Decidable (schema.SlotsWellFormed bindingClass) :=
  decidable_of_iff (_ ∧ _ ∧ _ ∧ _)
    ⟨fun ⟨names, suited, renderings, indices⟩ => ⟨names, suited, renderings, indices⟩,
      fun h => ⟨h.names, h.suited, h.renderings, h.indices⟩⟩

variable {schema : Schema} {slots : List Slot}

theorem bindingClass_of_mem_declaredIn {bindingClass : BindingClass} {slot : Slot}
    (h : slot ∈ schema.declaredIn bindingClass) : slot.bindingClass = bindingClass :=
  Slot.bindingClass_of_mem_declaredFrom h

theorem pairwise_distinct_iff {bindingClass : BindingClass} :
    (schema.declaredIn bindingClass).Pairwise Slot.Distinct ↔
      ((schema.entries bindingClass).map fun entry => Name.pascal entry.name).Nodup ∧
        ((schema.declaredIn bindingClass).map (·.index)).Nodup := by
  have hnames : ((schema.entries bindingClass).map fun entry => Name.pascal entry.name) =
      (schema.declaredIn bindingClass).map fun slot => Name.pascal slot.name := by
    have h := congrArg (List.map Name.pascal)
      (Slot.map_name_declaredFrom bindingClass 0 (schema.entries bindingClass))
    rw [List.map_map, List.map_map] at h
    exact h.symm
  rw [hnames, List.nodup_iff_pairwise_ne, List.nodup_iff_pairwise_ne, List.pairwise_map,
    List.pairwise_map]
  exact List.pairwise_and_iff

theorem slotsOf_eq_ok_iff {bindingClass : BindingClass} :
    schema.slotsOf bindingClass = .ok slots ↔
      schema.SlotsWellFormed bindingClass ∧ slots = schema.declaredIn bindingClass := by
  rw [slotsOf, Slot.declareAll_eq_ok_iff]
  show _ ∧ (schema.declaredIn bindingClass).Pairwise Slot.Distinct ∧ _ ∧ _ ↔ _
  rw [pairwise_distinct_iff]
  constructor
  · rintro ⟨hentries, ⟨hrenderings, hindices⟩, -, rfl⟩
    exact ⟨⟨fun entry h => (hentries entry h).2, fun entry h => (hentries entry h).1, hrenderings,
      hindices⟩, rfl⟩
  · rintro ⟨⟨hnames, hsuited, hrenderings, hindices⟩, rfl⟩
    exact ⟨fun entry h => ⟨hsuited entry h, hnames entry h⟩, ⟨hrenderings, hindices⟩,
      List.forall_mem_nil _, rfl⟩

theorem slots_eq_ok_iff :
    schema.slots = .ok slots ↔
      (∀ bindingClass, schema.SlotsWellFormed bindingClass) ∧
        slots = schema.declared.mergeSort Slot.precedes := by
  rw [Schema.slots, bind_eq_ok_iff]
  simp only [mapM_eq_ok_iff_map fun _ _ => slotsOf_eq_ok_iff]
  constructor
  · rintro ⟨_, ⟨hclasses, rfl⟩, ⟨⟩⟩
    exact ⟨fun bindingClass => hclasses bindingClass bindingClass.mem_all, rfl⟩
  · rintro ⟨hclasses, rfl⟩
    exact ⟨_, ⟨fun bindingClass _ => hclasses bindingClass, rfl⟩, rfl⟩

/-- Within a class any two declared slots can stand beside each other. -/
theorem pairwise_distinct_declared (h : ∀ bindingClass, schema.SlotsWellFormed bindingClass) :
    schema.declared.Pairwise fun first second =>
      first.bindingClass = second.bindingClass → first.Distinct second := by
  rw [declared, List.pairwise_flatMap]
  constructor
  · intro bindingClass _
    have hclass := h bindingClass
    refine (pairwise_distinct_iff.mpr ⟨hclass.renderings, hclass.indices⟩).imp ?_
    intro first second hdistinct _
    exact hdistinct
  · have hclasses : BindingClass.all.Pairwise (· ≠ ·) := by decide
    refine hclasses.imp fun hne first hfirst second hsecond heq => absurd ?_ hne
    rw [← bindingClass_of_mem_declaredIn hfirst, heq, bindingClass_of_mem_declaredIn hsecond]

/-- The slots of a contract are the declared ones, put in order. -/
theorem eq_mergeSort_iff (h : ∀ bindingClass, schema.SlotsWellFormed bindingClass) :
    slots = schema.declared.mergeSort Slot.precedes ↔
      slots.Perm schema.declared ∧ slots.Pairwise Slot.Before := by
  have hsorted : (schema.declared.mergeSort Slot.precedes).Pairwise Slot.Before := by
    have hordered := List.pairwise_mergeSort Slot.precedes_trans Slot.precedes_total schema.declared
    have hdistinct := (List.mergeSort_perm schema.declared Slot.precedes).symm.pairwise
      (pairwise_distinct_declared h) fun hdistinct hclass => (hdistinct hclass.symm).symm
    refine hordered.imp₂ (fun first second hprecedes hdistinct => ?_) hdistinct
    refine (Slot.precedes_eq_true_iff.mp hprecedes).imp_right fun ⟨hclass, hle⟩ => ?_
    exact ⟨hclass, UInt32.lt_of_le_of_ne hle (hdistinct hclass).2⟩
  constructor
  · rintro rfl
    exact ⟨List.mergeSort_perm .., hsorted⟩
  · rintro ⟨hperm, hpairwise⟩
    refine (hperm.trans (List.mergeSort_perm ..).symm).eq_of_pairwise ?_ hpairwise hsorted
    exact fun first second _ _ hbefore hafter => absurd hafter hbefore.asymm

end Schema

end ShaderLayout
