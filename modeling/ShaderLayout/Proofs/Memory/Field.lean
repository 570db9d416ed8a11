import ShaderLayout.Proofs.Layout.Placement
import ShaderLayout.Proofs.Memory.Word

/-!
Fields in a buffer. The words of a field lie apart from one another within the
bytes of its host type, hence within the field; what is written to a field is
read back from it, and fields that lie apart do not notice each other.
-/

namespace ShaderLayout

theorem FieldType.componentOffsets_pairwise (type : FieldType) :
    type.componentOffsets.Pairwise fun first second => first + 4 ≤ second := by
  cases type <;> decide

theorem FieldType.componentOffsets_within (type : FieldType) :
    ∀ place ∈ type.componentOffsets, place + 4 ≤ type.hostSize := by
  cases type <;> decide

namespace FieldLayout

variable {field other : FieldLayout} {bytes : List UInt8} {value : FieldValue}

theorem wordOffsets_pairwise (field : FieldLayout) :
    field.wordOffsets.Pairwise fun first second => first + 4 ≤ second := by
  rw [wordOffsets, List.pairwise_map]
  exact field.type.componentOffsets_pairwise.imp fun h => by omega

theorem wordOffsets_within {offset : Nat} (h : offset ∈ field.wordOffsets) :
    field.offset ≤ offset ∧ offset + 4 ≤ field.offset + field.type.hostSize := by
  obtain ⟨place, hplace, rfl⟩ := List.mem_map.mp h
  have hwithin := field.type.componentOffsets_within place hplace
  exact ⟨Nat.le_add_right .., by omega⟩

/-! Words stored one after the other. -/

@[simp] theorem length_setWords (bytes : List UInt8) (offsets : List Nat) (words : List UInt32) :
    (setWords bytes offsets words).length = bytes.length := by
  induction offsets generalizing bytes words with
  | nil => cases words <;> rfl
  | cons offset offsets ih =>
      cases words with
      | nil => rfl
      | cons word words => rw [setWords, ih, length_setWord]

theorem getElem?_setWords_of_outside {offsets : List Nat} {words : List UInt32} {place : Nat}
    (h : ∀ offset ∈ offsets, place < offset ∨ offset + 4 ≤ place) :
    (setWords bytes offsets words)[place]? = bytes[place]? := by
  induction offsets generalizing bytes words with
  | nil => cases words <;> rfl
  | cons offset offsets ih =>
      cases words with
      | nil => rfl
      | cons word words =>
          rw [setWords, ih fun later hlater => h later (List.mem_cons_of_mem _ hlater)]
          exact getElem?_setWord_of_outside (h offset List.mem_cons_self)

theorem wordAt_setWords_of_apart {offsets : List Nat} {words : List UInt32} {place : Nat}
    (h : ∀ offset ∈ offsets, place + 4 ≤ offset ∨ offset + 4 ≤ place) :
    wordAt (setWords bytes offsets words) place = wordAt bytes place := by
  apply wordAt_congr
  intro byte hstart hstop
  apply getElem?_setWords_of_outside
  intro offset hoffset
  have := h offset hoffset
  omega

theorem map_wordAt_setWords {offsets : List Nat} {words : List UInt32}
    (hapart : offsets.Pairwise fun first second => first + 4 ≤ second)
    (hwithin : ∀ offset ∈ offsets, offset + 4 ≤ bytes.length)
    (hlength : words.length = offsets.length) :
    offsets.map (wordAt (setWords bytes offsets words)) = words := by
  induction offsets generalizing bytes words with
  | nil => exact (List.eq_nil_of_length_eq_zero hlength).symm
  | cons offset offsets ih =>
      cases words with
      | nil => cases hlength
      | cons word words =>
          obtain ⟨hfirst, hrest⟩ := List.pairwise_cons.mp hapart
          have hoffset := hwithin offset List.mem_cons_self
          rw [setWords, List.map_cons]
          congr 1
          -- The later stores all lie behind the first word.
          · rw [wordAt_setWords_of_apart fun later hlater => Or.inl (hfirst later hlater)]
            exact wordAt_setWord hoffset
          · apply ih hrest _ (Nat.succ_inj.mp hlength)
            intro later hlater
            rw [length_setWord]
            exact hwithin later (List.mem_cons_of_mem _ hlater)

/-! Values written and read. -/

@[simp] theorem length_writeTo (field : FieldLayout) (bytes : List UInt8) (value : FieldValue) :
    (field.writeTo bytes value).length = bytes.length :=
  length_setWords ..

theorem readFrom_congr {first second : List UInt8}
    (h : ∀ offset ∈ field.wordOffsets, wordAt first offset = wordAt second offset) :
    field.readFrom first = field.readFrom second := by
  simp only [readFrom, FieldValue.mk.injEq, true_and]
  exact List.map_congr_left h

theorem readFrom_eq (htype : value.type = field.type)
    (hwords : field.wordOffsets.map (wordAt bytes) = value.words) :
    field.readFrom bytes = value := by
  obtain ⟨type, words, hlength⟩ := value
  simp only [readFrom, FieldValue.mk.injEq]
  exact ⟨htype.symm, hwords⟩

theorem readFrom_writeTo (htype : value.type = field.type)
    (hwithin : field.offset + field.type.hostSize ≤ bytes.length) :
    field.readFrom (field.writeTo bytes value) = value := by
  apply readFrom_eq htype
  apply map_wordAt_setWords field.wordOffsets_pairwise
  · intro offset hoffset
    exact Nat.le_trans (wordOffsets_within hoffset).2 hwithin
  · simp [wordOffsets, value.length_words, htype]

theorem readFrom_writeTo_of_apart (hfield : field.type.hostSize ≤ field.size)
    (hother : other.type.hostSize ≤ other.size) (hapart : field.Apart other) :
    other.readFrom (field.writeTo bytes value) = other.readFrom bytes := by
  apply readFrom_congr
  intro place hplace
  apply wordAt_setWords_of_apart
  intro offset hoffset
  have hin := wordOffsets_within hoffset
  have hout := wordOffsets_within hplace
  simp only [Apart, stop] at hapart
  omega

/-! What was read, written back. -/

theorem setWords_map_wordAt {offsets : List Nat}
    (h : ∀ offset ∈ offsets, offset + 4 ≤ bytes.length) :
    setWords bytes offsets (offsets.map (wordAt bytes)) = bytes := by
  induction offsets with
  | nil => rfl
  | cons offset offsets ih =>
      rw [List.map_cons, setWords, setWord_wordAt (h offset List.mem_cons_self)]
      exact ih fun later hlater => h later (List.mem_cons_of_mem _ hlater)

/-- A byte of one of the words of the field. -/
def Owns (field : FieldLayout) (place : Nat) : Prop :=
  ∃ offset ∈ field.wordOffsets, offset ≤ place ∧ place < offset + 4

/-- Where a field is read alike, its bytes are alike. -/
theorem getElem?_of_readFrom {first second : List UInt8} (hlength : first.length = second.length)
    (hwithin : ∀ offset ∈ field.wordOffsets, offset + 4 ≤ first.length)
    (h : field.readFrom first = field.readFrom second) {place : Nat} (hplace : field.Owns place) :
    first[place]? = second[place]? := by
  obtain ⟨offset, hoffset, hstart, hstop⟩ := hplace
  simp only [readFrom, FieldValue.mk.injEq, true_and] at h
  have hword := List.map_inj_left.mp h offset hoffset
  have hbound := hwithin offset hoffset
  obtain ⟨k, rfl⟩ := Nat.exists_eq_add_of_le hstart
  have hk : k < 4 := Nat.lt_of_add_lt_add_left hstop
  rw [getElem?_of_wordAt hbound hk, getElem?_of_wordAt (hlength ▸ hbound) hk, hword]

end FieldLayout

end ShaderLayout
