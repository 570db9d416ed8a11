import Mathlib.Data.List.Nodup
import Mathlib.Data.List.Pairwise
import ShaderLayout.Layout.Vertex
import ShaderLayout.Proofs.Layout.Alignment

/-!
Where fields come to lie. Fields placed from a cursor on stand one behind the
other, each on its alignment and none before the cursor. `Placed` gathers what
follows for every computed layout, and is all that reading and writing need to
know about it.
-/

namespace ShaderLayout

namespace FieldLayout

/-- The field that was placed. -/
def field (placed : FieldLayout) : Field :=
  ⟨placed.name, placed.type⟩

variable {rules : LayoutRules}

@[simp] theorem length_placeAll (cursor : Nat) (fields : List Field) :
    (placeAll rules cursor fields).length = fields.length := by
  induction fields generalizing cursor with
  | nil => rfl
  | cons field fields ih => simp [placeAll, ih]

@[simp] theorem map_field_placeAll (rules : LayoutRules) (cursor : Nat) (fields : List Field) :
    (placeAll rules cursor fields).map field = fields := by
  induction fields generalizing cursor with
  | nil => rfl
  | cons field fields ih =>
      rw [placeAll, List.map_cons, ih]
      rfl

theorem placeAll_append (cursor : Nat) (first second : List Field) :
    placeAll rules cursor (first ++ second) =
      placeAll rules cursor first ++ placeAll rules (stopAll rules cursor first) second := by
  induction first generalizing cursor with
  | nil => rfl
  | cons field first ih => simp [placeAll, stopAll, ih]

theorem stopAll_append (cursor : Nat) (first second : List Field) :
    stopAll rules cursor (first ++ second) =
      stopAll rules (stopAll rules cursor first) second := by
  induction first generalizing cursor with
  | nil => rfl
  | cons field first ih => simp [stopAll, ih]

theorem le_place_offset (rules : LayoutRules) (cursor : Nat) (field : Field) :
    cursor ≤ (place rules cursor field).offset :=
  le_alignUp cursor field.type.align_pos

theorem le_stopAll (cursor : Nat) (fields : List Field) : cursor ≤ stopAll rules cursor fields := by
  induction fields generalizing cursor with
  | nil => exact Nat.le_refl cursor
  | cons field fields ih =>
      have hoffset := le_place_offset rules cursor field
      exact Nat.le_trans (Nat.le_trans hoffset (Nat.le_add_right ..)) (ih _)

theorem stopAll_words (rules : LayoutRules) {cursor : Nat} (h : 4 ∣ cursor) (fields : List Field) :
    4 ∣ stopAll rules cursor fields := by
  induction fields generalizing cursor with
  | nil => exact h
  | cons field fields ih =>
      apply ih
      have hoffset := Nat.dvd_trans field.type.four_dvd_align (dvd_alignUp cursor field.type.align)
      exact Nat.dvd_add hoffset (field.type.four_dvd_size rules)

/-- The end of each field is not behind the end of all of them, and its start not before the
cursor. -/
theorem mem_placeAll {cursor : Nat} {fields : List Field} {field : FieldLayout}
    (h : field ∈ placeAll rules cursor fields) :
    cursor ≤ field.offset ∧ field.stop ≤ stopAll rules cursor fields ∧
      field.type.align ∣ field.offset ∧ field.size = field.type.size rules := by
  induction fields generalizing cursor with
  | nil => cases h
  | cons first fields ih =>
      have hcursor := le_place_offset rules cursor first
      rcases List.mem_cons.mp h with rfl | hrest
      · exact ⟨hcursor, le_stopAll _ fields, dvd_alignUp .., rfl⟩
      · obtain ⟨hstart, hrest⟩ := ih hrest
        exact ⟨Nat.le_trans (Nat.le_trans hcursor (Nat.le_add_right ..)) hstart, hrest⟩

theorem pairwise_placeAll (cursor : Nat) (fields : List Field) :
    (placeAll rules cursor fields).Pairwise fun first second => first.stop ≤ second.offset := by
  induction fields generalizing cursor with
  | nil => exact List.Pairwise.nil
  | cons field fields ih =>
      refine List.Pairwise.cons ?_ (ih _)
      intro later hlater
      exact (mem_placeAll hlater).1

/-- One of the two fields ends before the other starts. -/
def Apart (first second : FieldLayout) : Prop :=
  first.stop ≤ second.offset ∨ second.stop ≤ first.offset

instance : Std.Symm Apart := ⟨fun _ _ => Or.symm⟩

end FieldLayout

/-- What holds of every computed layout: fields of full size on their alignments, one behind the
other within the block, which takes whole words. -/
structure BlockLayout.Placed (layout : BlockLayout) : Prop where
  aligned : ∀ field ∈ layout.fields, field.type.align ∣ field.offset
  sized : ∀ field ∈ layout.fields, field.size = field.type.size layout.rules
  ordered : layout.fields.Pairwise fun first second => first.stop ≤ second.offset
  within : ∀ field ∈ layout.fields, field.stop ≤ layout.size
  words : 4 ∣ layout.size

theorem Block.stopAll_le_size (block : Block) (rules : LayoutRules) :
    FieldLayout.stopAll rules 0 block.fields ≤ (block.layout rules).size :=
  le_alignUp _ block.align_pos

theorem Block.four_dvd_size (block : Block) (rules : LayoutRules) :
    4 ∣ (block.layout rules).size := by
  have hstop := FieldLayout.stopAll_words rules (Nat.dvd_zero 4) block.fields
  have hsize := dvd_alignUp (FieldLayout.stopAll rules 0 block.fields) block.align
  show 4 ∣ alignUp _ _
  rcases block.align_cases with h | h | h | h <;> rw [h] at hsize ⊢
  · rwa [alignUp_of_dvd Nat.one_pos (Nat.one_dvd _)]
  all_goals exact Nat.dvd_trans (by decide) hsize

theorem Block.placed_layout (block : Block) (rules : LayoutRules) :
    (block.layout rules).Placed where
  aligned _ h := (FieldLayout.mem_placeAll h).2.2.1
  sized _ h := (FieldLayout.mem_placeAll h).2.2.2
  ordered := FieldLayout.pairwise_placeAll 0 block.fields
  within _ h := Nat.le_trans (FieldLayout.mem_placeAll h).2.1 (block.stopAll_le_size rules)
  words := block.four_dvd_size rules

/-- Where names are distinct, looking for a name finds what has it. -/
theorem find?_name_of_mem {α : Type} {name : α → String} {items : List α} {item : α}
    (hnames : (items.map name).Nodup) (h : item ∈ items) :
    items.find? (fun other => name other == name item) = some item := by
  cases hfind : items.find? fun other => name other == name item with
  | none =>
      rw [List.find?_eq_none] at hfind
      exact absurd (beq_self_eq_true (name item)) (hfind item h)
  | some found =>
      have hname : name found = name item := by simpa using List.find?_some hfind
      have hfound := List.mem_of_find?_eq_some hfind
      exact congrArg some (List.inj_on_of_nodup_map hnames hfound h hname)

/-- Among the fields that were placed the same one is the first of a name. -/
theorem Block.field?_layout (block : Block) (rules : LayoutRules) (name : String) :
    ((block.layout rules).field? name).map FieldLayout.field = block.field? name := by
  have hfields : (block.layout rules).fields.map FieldLayout.field = block.fields :=
    FieldLayout.map_field_placeAll rules 0 block.fields
  rw [field?, ← hfields, List.find?_map]
  rfl

theorem Block.map_name_layout (block : Block) (rules : LayoutRules) :
    (block.layout rules).fields.map (·.name) = block.fields.map (·.name) := by
  conv_rhs => rw [← FieldLayout.map_field_placeAll rules 0 block.fields, List.map_map]
  rfl

namespace BlockLayout

theorem mem_of_field? {layout : BlockLayout} {name : String} {field : FieldLayout}
    (h : layout.field? name = some field) : field ∈ layout.fields :=
  List.mem_of_find?_eq_some h

theorem name_of_field? {layout : BlockLayout} {name : String} {field : FieldLayout}
    (h : layout.field? name = some field) : field.name = name := by
  simpa using List.find?_some h

theorem field?_of_mem {layout : BlockLayout} (hnames : (layout.fields.map (·.name)).Nodup)
    {field : FieldLayout} (h : field ∈ layout.fields) : layout.field? field.name = some field :=
  find?_name_of_mem hnames h

theorem exists_field?_iff {layout : BlockLayout} {name : String} :
    (∃ field, layout.field? name = some field) ↔ name ∈ layout.fields.map (·.name) := by
  rw [← Option.isSome_iff_exists, field?, List.find?_isSome, List.mem_map]
  simp only [beq_iff_eq]

/-- In an array each element ends before any later one starts. -/
theorem element_stop_le (layout : BlockLayout) {first second : Nat} (h : first < second) :
    first * layout.size + layout.size ≤ second * layout.size := by
  rw [← Nat.succ_mul]
  exact Nat.mul_le_mul_right layout.size h

/-- Two fields that are found under different names do not overlap. -/
theorem Placed.apart {layout : BlockLayout} (hlayout : layout.Placed) {first second : String}
    {field other : FieldLayout} (hne : first ≠ second) (hfield : layout.field? first = some field)
    (hother : layout.field? second = some other) :
    field.Apart other := by
  have hnames : field ≠ other := by
    rintro rfl
    exact hne ((name_of_field? hfield).symm.trans (name_of_field? hother))
  have hpairwise : layout.fields.Pairwise FieldLayout.Apart := hlayout.ordered.imp Or.inl
  exact hpairwise.forall (mem_of_field? hfield) (mem_of_field? hother) hnames

end BlockLayout

/-! Attributes keep their order and are numbered by it. -/

namespace AttributeLayout

theorem map_name_packAll (location offset : Nat) (attrs : List Attribute) :
    (packAll location offset attrs).map (·.name) = attrs.map (·.name) := by
  induction attrs generalizing location offset with
  | nil => rfl
  | cons attr attrs ih => simp [packAll, ih]

theorem map_location_packAll (location offset : Nat) (attrs : List Attribute) :
    (packAll location offset attrs).map (·.location) = List.range' location attrs.length := by
  induction attrs generalizing location offset with
  | nil => rfl
  | cons attr attrs ih => simp [packAll, ih, List.range'_succ]

end AttributeLayout

theorem VertexInput.map_name_layout (input : VertexInput) :
    input.layout.attributes.map (·.name) = input.attributes.map (·.name) :=
  AttributeLayout.map_name_packAll 0 0 input.attributes

end ShaderLayout
