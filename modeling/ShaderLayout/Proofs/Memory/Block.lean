import ShaderLayout.Proofs.Memory.Field

/-!
Blocks in a buffer. A write to a field of a placed layout is read back under its
name, leaves every other field as it was, and touches no byte outside the words
of its field.
-/

namespace ShaderLayout.BlockLayout

variable {layout : BlockLayout} {bytes first second written : List UInt8} {name : String}
  {value : FieldValue}

/-- A byte that belongs to a word of the field of that name. -/
def Covers (layout : BlockLayout) (name : String) (place : Nat) : Prop :=
  ∃ field, layout.field? name = some field ∧
    ∃ offset ∈ field.wordOffsets, offset ≤ place ∧ place < offset + 4

theorem Placed.hostSize_le (hlayout : layout.Placed) {field : FieldLayout}
    (h : field ∈ layout.fields) : field.type.hostSize ≤ field.size := by
  rw [hlayout.sized field h]
  exact field.type.hostSize_le_size layout.rules

theorem locate_eq_ok_iff {length : Nat} {field : FieldLayout} :
    layout.locate length name = .ok field ↔
      layout.size ≤ length ∧ layout.field? name = some field := by
  rw [locate]
  split
  · next hshort => exact iff_of_false nofun fun h => Nat.not_lt.mpr h.1 hshort
  · next hlength =>
      rw [and_iff_right (Nat.not_lt.mp hlength)]
      cases layout.field? name <;> simp

/-- Every word of a field that is found lies in the buffer. -/
theorem Placed.wordOffsets_in_buffer (hlayout : layout.Placed) {length offset : Nat}
    {field : FieldLayout} (h : layout.locate length name = .ok field)
    (hoffset : offset ∈ field.wordOffsets) : offset + 4 ≤ length := by
  obtain ⟨hlength, hfield⟩ := locate_eq_ok_iff.mp h
  have hword := (FieldLayout.wordOffsets_within hoffset).2
  have hhost := hlayout.hostSize_le (mem_of_field? hfield)
  have hstop := hlayout.within field (mem_of_field? hfield)
  rw [FieldLayout.stop] at hstop
  omega

theorem readField_eq (layout : BlockLayout) (bytes : List UInt8) (name : String) :
    layout.readField bytes name = (layout.locate bytes.length name).map (·.readFrom bytes) := by
  rw [readField]
  cases layout.locate bytes.length name <;> rfl

theorem exists_readField_iff :
    (∃ value, layout.readField bytes name = .ok value) ↔
      layout.size ≤ bytes.length ∧ name ∈ layout.fields.map (·.name) := by
  rw [readField_eq, ← exists_field?_iff, ← exists_and_left]
  simp only [← locate_eq_ok_iff]
  cases layout.locate bytes.length name <;> simp [Except.map]

theorem writeField_eq (layout : BlockLayout) (bytes : List UInt8) (name : String)
    (value : FieldValue) :
    layout.writeField bytes name value =
      (layout.locate bytes.length name).bind fun field =>
        if value.type = field.type then .ok (field.writeTo bytes value)
        else .error (.typeMismatch layout.name name field.type value.type) := by
  rw [writeField]
  cases layout.locate bytes.length name with
  | error error => rfl
  | ok field =>
      by_cases htype : value.type = field.type
      · simp only [bind, Except.bind, if_pos htype, if_neg (not_not.mpr htype)]
        rfl
      · simp only [bind, Except.bind, if_neg htype, if_pos htype]
        rfl

theorem writeField_eq_ok_iff :
    layout.writeField bytes name value = .ok written ↔
      ∃ field, layout.locate bytes.length name = .ok field ∧ value.type = field.type ∧
        field.writeTo bytes value = written := by
  rw [writeField_eq]
  cases layout.locate bytes.length name with
  | error error => simp [Except.bind]
  | ok field => by_cases htype : value.type = field.type <;> simp [Except.bind, htype]

theorem length_of_writeField (h : layout.writeField bytes name value = .ok written) :
    written.length = bytes.length := by
  obtain ⟨field, -, -, rfl⟩ := writeField_eq_ok_iff.mp h
  exact field.length_writeTo bytes value

/-- After a write its field holds the value, and all others what they held before. -/
theorem Placed.readField_of_writeField (hlayout : layout.Placed)
    (h : layout.writeField bytes name value = .ok written) (other : String) :
    layout.readField written other =
      if other = name then .ok value else layout.readField bytes other := by
  have hlength := length_of_writeField h
  obtain ⟨field, hlocate, htype, rfl⟩ := writeField_eq_ok_iff.mp h
  obtain ⟨hsize, hfield⟩ := locate_eq_ok_iff.mp hlocate
  have hhost := hlayout.hostSize_le (mem_of_field? hfield)
  rw [readField_eq, readField_eq, hlength]
  split
  · next heq =>
      have hstop := hlayout.within field (mem_of_field? hfield)
      rw [FieldLayout.stop] at hstop
      rw [heq, hlocate, Except.map, FieldLayout.readFrom_writeTo htype (by omega)]
  · next hne =>
      cases hother : layout.locate bytes.length other with
      | error error => rw [Except.map, Except.map]
      | ok found =>
          have hfound := (locate_eq_ok_iff.mp hother).2
          have hapart := hlayout.apart (Ne.symm hne) hfield hfound
          rw [Except.map, Except.map,
            FieldLayout.readFrom_writeTo_of_apart hhost (hlayout.hostSize_le (mem_of_field? hfound))
              hapart]

theorem getElem?_of_writeField (h : layout.writeField bytes name value = .ok written) {place : Nat}
    (hplace : ¬layout.Covers name place) : written[place]? = bytes[place]? := by
  obtain ⟨field, hlocate, -, rfl⟩ := writeField_eq_ok_iff.mp h
  have hfield := (locate_eq_ok_iff.mp hlocate).2
  apply FieldLayout.getElem?_setWords_of_outside
  intro offset hoffset
  by_contra hin
  exact hplace ⟨field, hfield, offset, hoffset, by omega⟩

end ShaderLayout.BlockLayout
