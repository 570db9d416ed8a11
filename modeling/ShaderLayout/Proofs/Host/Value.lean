import ShaderLayout.Host.Image
import ShaderLayout.Proofs.Memory.Field

/-!
Values on the host. The host image of a value has its words where the layout of
its type has the components, so that a field that starts where the image does
reads the value whole.
-/

namespace ShaderLayout

namespace FieldType

/-- Components follow one another, but for the matrix of three columns. -/
theorem componentOffsets_eq {type : FieldType} (h : type ≠ .float3x3) :
    type.componentOffsets = (List.range type.componentCount).map (4 * ·) := by
  cases type <;> first | decide | exact absurd rfl h

theorem hostSize_eq {type : FieldType} (h : type ≠ .float3x3) :
    type.hostSize = 4 * type.componentCount := by
  cases type <;> first | decide | exact absurd rfl h

end FieldType

namespace FieldValue

variable {value : FieldValue}

theorem hostBytes_eq (h : value.type ≠ .float3x3) :
    value.hostBytes = value.words.flatMap wordBytes := by
  obtain ⟨type, words, hlength⟩ := value
  cases type <;> first | rfl | exact absurd rfl h

theorem hostBytes_float3x3 (h : value.type = .float3x3) :
    ∃ a b c d e f g h i, value.words = [a, b, c, d, e, f, g, h, i] ∧
      value.hostBytes = [a, b, c, 0, d, e, f, 0, g, h, i, 0].flatMap wordBytes := by
  obtain ⟨type, words, hlength⟩ := value
  subst h
  match words, hlength with
  | [a, b, c, d, e, f, g, h, i], _ => exact ⟨a, b, c, d, e, f, g, h, i, rfl, rfl⟩

@[simp] theorem length_hostBytes (value : FieldValue) :
    value.hostBytes.length = value.type.hostSize := by
  by_cases htype : value.type = .float3x3
  · obtain ⟨a, b, c, d, e, f, g, h, i, -, hbytes⟩ := hostBytes_float3x3 htype
    rw [hbytes, htype, length_flatMap_wordBytes]
    rfl
  · rw [hostBytes_eq htype, length_flatMap_wordBytes, value.length_words,
      FieldType.hostSize_eq htype]

/-- The words of a value stand where its type has its components. -/
theorem map_wordAt_hostBytes (value : FieldValue) (after : List UInt8) :
    value.type.componentOffsets.map (wordAt (value.hostBytes ++ after)) = value.words := by
  by_cases htype : value.type = .float3x3
  · obtain ⟨a, b, c, d, e, f, g, h, i, hwords, hbytes⟩ := hostBytes_float3x3 htype
    have hword (k : Nat) (word : UInt32)
        (hk : [a, b, c, 0, d, e, f, 0, g, h, i, 0][k]? = some word) :
        wordAt (value.hostBytes ++ after) (4 * k) = word :=
      hbytes ▸ wordAt_flatMap_wordBytes hk after
    rw [hwords, htype]
    -- The fourth word of a column is not a component.
    show [wordAt _ (4 * 0), wordAt _ (4 * 1), wordAt _ (4 * 2), wordAt _ (4 * 4), wordAt _ (4 * 5),
      wordAt _ (4 * 6), wordAt _ (4 * 8), wordAt _ (4 * 9), wordAt _ (4 * 10)] = _
    rw [hword 0 a rfl, hword 1 b rfl, hword 2 c rfl, hword 4 d rfl, hword 5 e rfl, hword 6 f rfl,
      hword 8 g rfl, hword 9 h rfl, hword 10 i rfl]
  · rw [FieldType.componentOffsets_eq htype, List.map_map, hostBytes_eq htype, ← value.length_words]
    apply List.ext_getElem (by simp)
    intro k _ hk
    rw [List.getElem_map, List.getElem_range]
    exact wordAt_flatMap_wordBytes (List.getElem?_eq_getElem hk) after

end FieldValue

theorem FieldLayout.readFrom_hostBytes {field : FieldLayout} {value : FieldValue}
    {before : List UInt8} (htype : value.type = field.type) (hbefore : before.length = field.offset)
    (after : List UInt8) : field.readFrom (before ++ (value.hostBytes ++ after)) = value := by
  apply readFrom_eq htype
  rw [wordOffsets, List.map_map, ← htype, ← hbefore]
  rw [← value.map_wordAt_hostBytes after]
  apply List.map_congr_left
  intro offset _
  exact wordAt_append before _ offset

end ShaderLayout
