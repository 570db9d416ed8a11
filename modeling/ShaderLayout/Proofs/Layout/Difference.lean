import ShaderLayout.Proofs.Layout.Comparison

/-!
The first difference between a layout and what was observed. A comparison looks
at the number of fields, then at one field after the other, at its name before
its offset, and at the size last. What it tells is the first difference in this
order, so that all before it agrees. Two layouts compared either way differ at
the same place, with what was expected and what was found exchanged.
-/

namespace ShaderLayout

/-- The places where layouts can differ, in the order of a comparison; fields have positions. -/
inductive Difference where
  | fieldCount
  | fieldName (position : Nat)
  | offset (position : Nat)
  | size
  deriving DecidableEq, Repr

/-- The same difference as a comparison the other way tells it, of a block of that name. -/
def LayoutMismatch.exchanged (block : String) : LayoutMismatch → LayoutMismatch
  | .size _ expected found => .size block found expected
  | .offset _ field expected found => .offset block field found expected
  | .fieldName _ position expected found => .fieldName block position found expected
  | .fieldCount _ expected found => .fieldCount block found expected
  | .missingBlock _ => .missingBlock block
  | .bindingIndex bindingClass name expected found => .bindingIndex bindingClass name found expected

namespace ObservedLayout

/-- What was found differs at a place first, and what there is to tell about it. Up to a field the
names and offsets are the same, and at the size all fields are. -/
inductive Differs (expected found : ObservedLayout) : Difference → LayoutMismatch → Prop
  | fieldCount (hcount : found.fields.length ≠ expected.fields.length) :
    Differs expected found .fieldCount
      (.fieldCount expected.block expected.fields.length found.fields.length)
  | fieldName {common expecteds founds : List ObservedField} {first second : ObservedField}
    (hexpected : expected.fields = common ++ first :: expecteds)
    (hfound : found.fields = common ++ second :: founds)
    (hcount : founds.length = expecteds.length) (hname : first.name ≠ second.name) :
    Differs expected found (.fieldName common.length)
      (.fieldName expected.block common.length first.name second.name)
  | offset {common expecteds founds : List ObservedField} {first second : ObservedField}
    (hexpected : expected.fields = common ++ first :: expecteds)
    (hfound : found.fields = common ++ second :: founds)
    (hcount : founds.length = expecteds.length) (hname : first.name = second.name)
    (hoffset : first.offset ≠ second.offset) :
    Differs expected found (.offset common.length)
      (.offset expected.block first.name first.offset second.offset)
  | size (hfields : found.fields = expected.fields) (hsize : found.size ≠ expected.size) :
    Differs expected found .size (.size expected.block expected.size found.size)

variable {expected found : ObservedLayout} {place : Difference} {mismatch : LayoutMismatch}

theorem Differs.exchanged (h : expected.Differs found place mismatch) :
    found.Differs expected place (mismatch.exchanged found.block) := by
  cases h with
  | fieldCount hcount => exact .fieldCount hcount.symm
  | fieldName hexpected hfound hcount hname =>
      exact .fieldName hfound hexpected hcount.symm hname.symm
  | offset hexpected hfound hcount hname hoffset =>
      rw [hname]
      exact .offset hfound hexpected hcount.symm hname.symm hoffset.symm
  | size hfields hsize => exact .size hfields.symm hsize.symm

/-- Two lists of one length that are not the same have a first position where they differ. -/
theorem exists_first_ne {α : Type} {first second : List α} (hlength : second.length = first.length)
    (hne : first ≠ second) :
    ∃ common a b firsts seconds, first = common ++ a :: firsts ∧ second = common ++ b :: seconds ∧
      a ≠ b := by
  induction first generalizing second with
  | nil => exact absurd (List.eq_nil_of_length_eq_zero hlength).symm hne
  | cons a first ih =>
      cases second with
      | nil => cases hlength
      | cons b second =>
          by_cases heq : a = b
          · subst heq
            obtain ⟨common, a', b', firsts, seconds, rfl, rfl, hab⟩ :=
              ih (Nat.succ_inj.mp hlength) fun h => hne (congrArg _ h)
            exact ⟨a :: common, a', b', firsts, seconds, rfl, rfl, hab⟩
          · exact ⟨[], a, b, first, second, rfl, rfl, heq⟩

theorem exists_differs (h : ¬(found.fields = expected.fields ∧ found.size = expected.size)) :
    ∃ place mismatch, expected.Differs found place mismatch := by
  by_cases hcount : found.fields.length = expected.fields.length
  · by_cases hfields : expected.fields = found.fields
    · exact ⟨_, _, .size hfields.symm fun hsize => h ⟨hfields.symm, hsize⟩⟩
    · obtain ⟨common, first, second, expecteds, founds, hexpected, hfound, hne⟩ :=
        exists_first_ne hcount hfields
      have hrest : founds.length = expecteds.length := by
        rw [hexpected, hfound, List.length_append, List.length_append] at hcount
        exact Nat.succ_inj.mp (Nat.add_left_cancel hcount)
      by_cases hname : first.name = second.name
      · refine ⟨_, _, .offset hexpected hfound hrest hname fun hoffset => hne ?_⟩
        exact (ObservedField.mk.injEq ..).mpr ⟨hname, hoffset⟩
      · exact ⟨_, _, .fieldName hexpected hfound hrest hname⟩
  · exact ⟨_, _, .fieldCount hcount⟩

end ObservedLayout

namespace BlockLayout

open ObservedLayout

variable {layout : BlockLayout} {found : ObservedLayout} {mismatch : LayoutMismatch}

theorem compare_eq_error_of_differs {place : Difference}
    (h : layout.observed.Differs found place mismatch) :
    layout.compare found = .error mismatch := by
  cases h with
  | fieldCount hcount =>
      rw [observed_fields, List.length_map] at hcount ⊢
      rw [compare, if_pos hcount]
      rfl
  | fieldName hexpected hfound hcount hname =>
      have hne := fun heq => hname (congrArg ObservedField.name heq)
      rw [compare_of_split hexpected hfound hcount hne, if_neg hname]
      rfl
  | offset hexpected hfound hcount hname hoffset =>
      have hne := fun heq => hoffset (congrArg ObservedField.offset heq)
      rw [compare_of_split hexpected hfound hcount hne, if_pos hname]
      rfl
  | size hfields hsize =>
      have hlength : found.fields.length = layout.fields.length := by
        rw [hfields, observed_fields, List.length_map]
      rw [compare_of_length hlength, (compareFields_eq_ok_iff hlength).mpr hfields]
      exact if_neg hsize

theorem compare_eq_error_iff :
    layout.compare found = .error mismatch ↔
      ∃ place, layout.observed.Differs found place mismatch := by
  constructor
  · intro h
    have hne : ¬(found.fields = layout.observed.fields ∧ found.size = layout.observed.size) := by
      intro heq
      rw [compare_eq_ok_iff.mpr heq] at h
      cases h
    obtain ⟨place, told, hdiffers⟩ := exists_differs hne
    have htold := (compare_eq_error_of_differs hdiffers).symm.trans h
    cases htold
    exact ⟨place, hdiffers⟩
  · rintro ⟨place, h⟩
    exact compare_eq_error_of_differs h

/-- A comparison passes exactly on the size, names and offsets of the layout, whatever the observed
block is called, and otherwise tells the first difference. Two layouts pass or fail together, and
fail at one place, where each tells as expected what the other one found. -/
theorem compare_tells_first_difference (layout : BlockLayout) :
    (∀ found, layout.compare found = .ok () ↔
      found.size = layout.size ∧
        found.fields = layout.fields.map fun field => ⟨field.name, field.offset⟩) ∧
    (∀ found mismatch, layout.compare found = .error mismatch ↔
      ∃ place, layout.observed.Differs found place mismatch) ∧
    ∀ other : BlockLayout,
      layout.compare other.observed = .ok () ∧ other.compare layout.observed = .ok () ∨
      ∃ place mismatch,
        layout.observed.Differs other.observed place mismatch ∧
        other.observed.Differs layout.observed place (mismatch.exchanged other.name) ∧
        layout.compare other.observed = .error mismatch ∧
        other.compare layout.observed = .error (mismatch.exchanged other.name) := by
  refine ⟨fun found => compare_eq_ok_iff.trans and_comm,
    fun found mismatch => compare_eq_error_iff, fun other => ?_⟩
  cases hcompare : layout.compare other.observed with
  | ok =>
      obtain ⟨hfields, hsize⟩ := compare_eq_ok_iff.mp hcompare
      exact .inl ⟨rfl, compare_eq_ok_iff.mpr ⟨hfields.symm, hsize.symm⟩⟩
  | error mismatch =>
      obtain ⟨place, hdiffers⟩ := compare_eq_error_iff.mp hcompare
      have hother := hdiffers.exchanged
      exact .inr ⟨place, mismatch, hdiffers, hother, rfl, compare_eq_error_of_differs hother⟩

end BlockLayout

end ShaderLayout
