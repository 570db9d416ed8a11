import Mathlib.Data.List.Induction
import ShaderLayout.Layout.Observed
import ShaderLayout.Proofs.Layout.Placement

/-!
Comparison of layouts. It succeeds exactly on the observation that the layout
itself would give, and otherwise tells the first field that differs.
-/

namespace ShaderLayout

/-- What a compiler would show of a field. -/
def FieldLayout.observed (field : FieldLayout) : ObservedField :=
  ⟨field.name, field.offset⟩

namespace BlockLayout

@[simp] theorem observed_size (layout : BlockLayout) : layout.observed.size = layout.size := rfl

@[simp] theorem observed_fields (layout : BlockLayout) :
    layout.observed.fields = layout.fields.map FieldLayout.observed := rfl

theorem compareFields_append (block : String) (position : Nat) (common rest : List FieldLayout)
    (founds : List ObservedField) :
    compareFields block position (common ++ rest) (common.map FieldLayout.observed ++ founds) =
      compareFields block (position + common.length) rest founds := by
  induction common generalizing position with
  | nil => rfl
  | cons field common ih =>
      simp only [List.cons_append, List.map_cons, compareFields, FieldLayout.observed, ne_eq,
        not_true_eq_false, if_false, List.length_cons]
      rw [← Nat.add_assoc, Nat.add_right_comm]
      exact ih (position + 1)

/-- A field that was observed otherwise is told, for its name before its offset. -/
theorem compareFields_of_ne {block : String} {position : Nat} {expected : FieldLayout}
    {found : ObservedField} {expecteds : List FieldLayout} {founds : List ObservedField}
    (hne : expected.observed ≠ found) :
    compareFields block position (expected :: expecteds) (found :: founds) =
      .error (if expected.name = found.name
        then .offset block expected.name expected.offset found.offset
        else .fieldName block position expected.name found.name) := by
  by_cases hname : expected.name = found.name
  · have hoffset : expected.offset ≠ found.offset := fun hoffset =>
      hne ((ObservedField.mk.injEq ..).mpr ⟨hname, hoffset⟩)
    rw [compareFields, if_neg (not_not.mpr hname), if_pos hoffset, if_pos hname]
  · rw [compareFields, if_pos hname, if_neg hname]

theorem compareFields_eq_ok_iff {block : String} {position : Nat} {expecteds : List FieldLayout}
    {founds : List ObservedField} (h : founds.length = expecteds.length) :
    compareFields block position expecteds founds = .ok () ↔
      founds = expecteds.map FieldLayout.observed := by
  induction expecteds generalizing position founds with
  | nil =>
      rw [List.eq_nil_of_length_eq_zero h]
      exact iff_of_true rfl rfl
  | cons expected expecteds ih =>
      cases founds with
      | nil => cases h
      | cons found founds =>
          obtain ⟨name, offset⟩ := found
          simp only [compareFields, List.map_cons, List.cons.injEq, FieldLayout.observed,
            ObservedField.mk.injEq]
          split
          · next hname => simp [Ne.symm hname]
          split
          · next hoffset => simp [Ne.symm hoffset]
          next hname hoffset =>
            rw [ih (Nat.succ_inj.mp h), not_not.mp hname, not_not.mp hoffset]
            exact (and_iff_right ⟨rfl, rfl⟩).symm

theorem compare_of_length {layout : BlockLayout} {observed : ObservedLayout}
    (h : observed.fields.length = layout.fields.length) :
    layout.compare observed =
      (compareFields layout.name 0 layout.fields observed.fields).bind fun _ =>
        if observed.size = layout.size then .ok ()
        else .error (.size layout.name layout.size observed.size) := by
  rw [compare, if_neg (not_not.mpr h)]
  show Except.bind _ _ = _
  congr 1
  funext
  by_cases hsize : observed.size = layout.size
  · rw [if_pos hsize, if_neg (not_not.mpr hsize)]
    rfl
  · rw [if_neg hsize, if_pos hsize]
    rfl

theorem compare_eq_ok_iff {layout : BlockLayout} {observed : ObservedLayout} :
    layout.compare observed = .ok () ↔
      observed.fields = layout.fields.map FieldLayout.observed ∧ observed.size = layout.size := by
  by_cases hlength : observed.fields.length = layout.fields.length
  · rw [compare_of_length hlength, ← compareFields_eq_ok_iff hlength]
    cases compareFields layout.name 0 layout.fields observed.fields with
    | error mismatch => simp [Except.bind]
    | ok => by_cases hsize : observed.size = layout.size <;> simp [Except.bind, hsize]
  · have hfields : observed.fields ≠ layout.fields.map FieldLayout.observed := by
      intro h
      exact hlength (by rw [h, List.length_map])
    rw [compare, if_pos hlength]
    exact iff_of_false nofun fun h => hfields h.1

/-- A layout of the right name passes when it is the observed one. -/
theorem compare_eq_ok_iff_observed {layout : BlockLayout} {observed : ObservedLayout}
    (h : layout.name = observed.block) :
    layout.compare observed = .ok () ↔ layout.observed = observed := by
  obtain ⟨_, size, fields⟩ := observed
  cases h
  rw [compare_eq_ok_iff, BlockLayout.observed, ObservedLayout.mk.injEq, and_iff_right rfl]
  exact ⟨fun ⟨hfields, hsize⟩ => ⟨hsize.symm, hfields.symm⟩,
    fun ⟨hsize, hfields⟩ => ⟨hfields.symm, hsize.symm⟩⟩

/-- Fields that are observed alike are passed over, up to the first one that is not. -/
theorem compare_of_split {layout : BlockLayout} {observed : ObservedLayout}
    {common expecteds founds : List ObservedField} {expected found : ObservedField}
    (hexpected : layout.observed.fields = common ++ expected :: expecteds)
    (hfound : observed.fields = common ++ found :: founds)
    (hcount : founds.length = expecteds.length) (hne : expected ≠ found) :
    layout.compare observed = .error (if expected.name = found.name
      then .offset layout.name expected.name expected.offset found.offset
      else .fieldName layout.name common.length expected.name found.name) := by
  rw [observed_fields] at hexpected
  obtain ⟨before, rest, hfields, rfl, hrest⟩ := List.map_eq_append_iff.mp hexpected
  obtain ⟨field, after, rfl, rfl, rfl⟩ := List.map_eq_cons_iff.mp hrest
  have hlength : observed.fields.length = layout.fields.length := by
    simp [hfields, hfound, hcount]
  rw [compare_of_length hlength, hfields, hfound, compareFields_append, Nat.zero_add,
    List.length_map, compareFields_of_ne hne]
  rfl

/-- Behind fields that agree, a field of the same name at another offset is what is told. -/
theorem compare_eq_offset {layout other : BlockLayout}
    {common same expecteds founds : List FieldLayout} {expected found : FieldLayout}
    (hlayout : layout.fields = common ++ expected :: expecteds)
    (hother : other.fields = same ++ found :: founds)
    (hcommon : same.map FieldLayout.observed = common.map FieldLayout.observed)
    (hlength : founds.length = expecteds.length) (hname : expected.name = found.name)
    (hoffset : expected.offset ≠ found.offset) :
    layout.compare other.observed =
      .error (.offset layout.name expected.name expected.offset found.offset) := by
  have hexpected : layout.observed.fields = common.map FieldLayout.observed ++
      expected.observed :: expecteds.map FieldLayout.observed := by
    rw [observed_fields, hlayout, List.map_append, List.map_cons]
  have hfound : other.observed.fields = common.map FieldLayout.observed ++
      found.observed :: founds.map FieldLayout.observed := by
    rw [observed_fields, hother, List.map_append, List.map_cons, hcommon]
  have hcount : (founds.map FieldLayout.observed).length =
      (expecteds.map FieldLayout.observed).length := by
    rw [List.length_map, List.length_map, hlength]
  have hne : expected.observed ≠ found.observed := fun heq =>
    hoffset (congrArg ObservedField.offset heq)
  rw [compare_of_split hexpected hfound hcount hne]
  exact congrArg Except.error (if_pos hname)

end BlockLayout

theorem Block.map_name_observed (block : Block) (rules : LayoutRules) :
    (block.layout rules).observed.fields.map (·.name) = block.fields.map (·.name) := by
  rw [← block.map_name_layout rules, BlockLayout.observed_fields, List.map_map]
  rfl

end ShaderLayout
