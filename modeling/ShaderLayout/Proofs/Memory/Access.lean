import ShaderLayout.Layout.Access
import ShaderLayout.Proofs.Memory.Block

/-!
Work on a buffer word after word. On a placed layout it never faults: loading a
field and storing one come to what reading and writing it as a whole come to,
and an error is given before anything is stored.
-/

namespace ShaderLayout

namespace BufferM

variable {bytes : List UInt8} {offsets : List Nat}

theorem on_mapM_loadWord (h : ∀ offset ∈ offsets, offset + 4 ≤ bytes.length) :
    (offsets.mapM loadWord).on bytes = some (.ok (offsets.map (wordAt bytes)), bytes) := by
  induction offsets with
  | nil => rfl
  | cons offset offsets ih =>
      have hfirst := on_loadWord (h offset List.mem_cons_self)
      have hrest := ih fun later hlater => h later (List.mem_cons_of_mem _ hlater)
      rw [List.mapM_cons, on_bind_of_ok hfirst, on_bind_of_ok hrest]
      rfl

theorem on_storeWords {words : List UInt32} (h : ∀ offset ∈ offsets, offset + 4 ≤ bytes.length) :
    (storeWords offsets words).on bytes =
      some (.ok (), FieldLayout.setWords bytes offsets words) := by
  induction offsets generalizing bytes words with
  | nil => cases words <;> rfl
  | cons offset offsets ih =>
      cases words with
      | nil => rfl
      | cons word words =>
          have hfirst := h offset List.mem_cons_self
          rw [storeWords, on_bind_of_ok (on_storeWord hfirst), FieldLayout.setWords]
          apply ih
          intro later hlater
          rw [length_setWord]
          exact h later (List.mem_cons_of_mem _ hlater)

end BufferM

namespace BlockLayout

variable {layout : BlockLayout}

theorem Placed.on_loadField (hlayout : layout.Placed) (bytes : List UInt8) (name : String) :
    (layout.loadField name).on bytes = some (layout.readField bytes name, bytes) := by
  have hseek := layout.on_seek name bytes
  rw [loadField, readField_eq]
  cases h : layout.locate bytes.length name with
  | error error =>
      rw [h] at hseek
      exact BufferM.on_bind_of_error hseek
  | ok field =>
      rw [h] at hseek
      have hwords := BufferM.on_mapM_loadWord fun _ => hlayout.wordOffsets_in_buffer h
      have hvalue : FieldValue.ofWords? field.type (field.wordOffsets.map (wordAt bytes)) =
          some (field.readFrom bytes) :=
        dif_pos (field.readFrom bytes).length_words
      rw [BufferM.on_bind_of_ok hseek, BufferM.on_bind_of_ok hwords, hvalue]
      rfl

theorem Placed.on_storeField (hlayout : layout.Placed) (bytes : List UInt8) (write : FieldWrite) :
    (layout.storeField write).on bytes =
      some (match layout.writeField bytes write.name write.value with
        | .ok written => (.ok (), written)
        | .error error => (.error error, bytes)) := by
  have hseek := layout.on_seek write.name bytes
  rw [storeField, writeField_eq]
  cases h : layout.locate bytes.length write.name with
  | error error =>
      rw [h] at hseek
      exact BufferM.on_bind_of_error hseek
  | ok field =>
      rw [h] at hseek
      rw [BufferM.on_bind_of_ok hseek, Except.bind]
      by_cases htype : write.value.type = field.type
      · rw [if_pos htype, if_neg (not_not.mpr htype)]
        exact BufferM.on_storeWords fun _ => hlayout.wordOffsets_in_buffer h
      · rw [if_neg htype, if_pos htype]
        rfl

end BlockLayout

end ShaderLayout
