import ShaderLayout.Layout.Memory

/-!
Words in a buffer. A stored word is read back whole, and neither a byte nor a
word outside its four bytes notices the store.
-/

namespace ShaderLayout

@[simp] theorem length_setWord (bytes : List UInt8) (offset : Nat) (word : UInt32) :
    (setWord bytes offset word).length = bytes.length := by
  simp [setWord]

/-- A word is the union of its four bytes, each at its place. -/
theorem join_bytes (word : UInt32) :
    word.toUInt8.toUInt32 ||| (word >>> 8).toUInt8.toUInt32 <<< 8 |||
      (word >>> 16).toUInt8.toUInt32 <<< 16 ||| (word >>> 24).toUInt8.toUInt32 <<< 24 = word := by
  apply UInt32.toBitVec_inj.1
  simp only [UInt32.toBitVec_or, UInt32.toBitVec_shiftLeft, UInt8.toBitVec_toUInt32,
    UInt32.toBitVec_toUInt8, UInt32.toBitVec_shiftRight]
  ext place hplace
  simp [-BitVec.setWidth_eq, -UInt32.toBitVec_ofNat]
  grind

theorem getElem?_setWord_of_outside {bytes : List UInt8} {offset place : Nat} {word : UInt32}
    (h : place < offset ∨ offset + 4 ≤ place) :
    (setWord bytes offset word)[place]? = bytes[place]? := by
  simp only [setWord]
  repeat rw [List.getElem?_set_ne (by omega)]

/-- A word depends on its four bytes only. -/
theorem wordAt_congr {first second : List UInt8} {offset : Nat}
    (h : ∀ place, offset ≤ place → place < offset + 4 → first[place]? = second[place]?) :
    wordAt first offset = wordAt second offset := by
  have h0 := h offset (by omega) (by omega)
  have h1 := h (offset + 1) (by omega) (by omega)
  have h2 := h (offset + 2) (by omega) (by omega)
  have h3 := h (offset + 3) (by omega) (by omega)
  simp only [wordAt, List.getD_eq_getElem?_getD, h0, h1, h2, h3]

/-- Where the four bytes of a word stand, the word is read. -/
theorem wordAt_of_bytes {bytes : List UInt8} {offset : Nat} {word : UInt32}
    (h : ∀ k < 4, bytes[offset + k]? = (FieldValue.wordBytes word)[k]?) :
    wordAt bytes offset = word := by
  have h0 := h 0 (by decide)
  have h1 := h 1 (by decide)
  have h2 := h 2 (by decide)
  have h3 := h 3 (by decide)
  rw [Nat.add_zero] at h0
  simp only [wordAt, List.getD_eq_getElem?_getD, h0, h1, h2, h3]
  exact join_bytes word

theorem getElem?_setWord {bytes : List UInt8} {offset k : Nat} {word : UInt32}
    (h : offset + 4 ≤ bytes.length) (hk : k < 4) :
    (setWord bytes offset word)[offset + k]? = (FieldValue.wordBytes word)[k]? := by
  obtain rfl | rfl | rfl | rfl : k = 0 ∨ k = 1 ∨ k = 2 ∨ k = 3 := by omega
  all_goals
    simp [setWord, List.getElem?_set, FieldValue.wordBytes]
    omega

theorem wordAt_setWord {bytes : List UInt8} {offset : Nat} {word : UInt32}
    (h : offset + 4 ≤ bytes.length) : wordAt (setWord bytes offset word) offset = word :=
  wordAt_of_bytes fun _ hk => getElem?_setWord h hk

/-! Words put back as they were read. -/

/-- The bytes of a word are those that it is the union of. -/
theorem wordBytes_join (a b c d : UInt8) :
    FieldValue.wordBytes
      (a.toUInt32 ||| b.toUInt32 <<< 8 ||| c.toUInt32 <<< 16 ||| d.toUInt32 <<< 24) =
        [a, b, c, d] := by
  simp only [FieldValue.wordBytes, List.cons.injEq, and_true]
  refine ⟨?_, ?_, ?_, ?_⟩
  all_goals
    apply UInt8.toBitVec_inj.1
    simp only [UInt32.toBitVec_toUInt8, UInt32.toBitVec_shiftRight, UInt32.toBitVec_or,
      UInt32.toBitVec_shiftLeft, UInt8.toBitVec_toUInt32, UInt32.toBitVec_ofNat,
      BitVec.ofNat_eq_ofNat, BitVec.reduceMod, BitVec.shiftLeft_eq', BitVec.ushiftRight_eq',
      BitVec.toNat_ofNat, Nat.reducePow, Nat.reduceMod]
    ext place hplace
    simp only [BitVec.getElem_setWidth, BitVec.getLsbD_ushiftRight, BitVec.getLsbD_or,
      BitVec.getLsbD_setWidth, BitVec.getLsbD_shiftLeft]
    grind

theorem getElem?_of_wordAt {bytes : List UInt8} {offset : Nat} (h : offset + 4 ≤ bytes.length) {k : Nat} (hk : k < 4) :
    bytes[offset + k]? = (FieldValue.wordBytes (wordAt bytes offset))[k]? := by
  have hbyte : bytes[offset + k]? = some (bytes.getD (offset + k) 0) := by
    rw [List.getD_eq_getElem?_getD, List.getElem?_eq_getElem (by omega), Option.getD_some]
  rw [hbyte, wordAt, wordBytes_join]
  obtain rfl | rfl | rfl | rfl : k = 0 ∨ k = 1 ∨ k = 2 ∨ k = 3 := by omega
  all_goals rfl

theorem setWord_wordAt {bytes : List UInt8} {offset : Nat} (h : offset + 4 ≤ bytes.length) :
    setWord bytes offset (wordAt bytes offset) = bytes := by
  apply List.ext_getElem?
  intro place
  by_cases hin : offset ≤ place ∧ place < offset + 4
  · obtain ⟨k, rfl⟩ := Nat.exists_eq_add_of_le hin.1
    have hk : k < 4 := Nat.lt_of_add_lt_add_left hin.2
    rw [getElem?_setWord h hk, getElem?_of_wordAt h hk]
  · exact getElem?_setWord_of_outside (by omega)

/-! Words one behind the other, as host code has them. -/

@[simp] theorem length_flatMap_wordBytes (words : List UInt32) :
    (words.flatMap FieldValue.wordBytes).length = 4 * words.length := by
  induction words with
  | nil => rfl
  | cons word words ih =>
      rw [List.flatMap_cons, List.length_append, ih, FieldValue.length_wordBytes, List.length_cons]
      omega

theorem wordAt_append (before bytes : List UInt8) (offset : Nat) :
    wordAt (before ++ bytes) (before.length + offset) = wordAt bytes offset := by
  simp only [wordAt, List.getD_eq_getElem?_getD, Nat.add_assoc, List.getElem?_append_right,
    Nat.le_add_right, Nat.add_sub_cancel_left]

theorem wordAt_wordBytes (word : UInt32) (after : List UInt8) :
    wordAt (FieldValue.wordBytes word ++ after) 0 = word := by
  apply wordAt_of_bytes
  intro k hk
  rw [Nat.zero_add, List.getElem?_append_left hk]

theorem wordAt_flatMap_wordBytes {words : List UInt32} {k : Nat} {word : UInt32}
    (h : words[k]? = some word) (after : List UInt8) :
    wordAt (words.flatMap FieldValue.wordBytes ++ after) (4 * k) = word := by
  induction words generalizing k with
  | nil => cases h
  | cons first words ih =>
      rw [List.flatMap_cons, List.append_assoc]
      cases k with
      | zero =>
          rw [← Option.some.inj h]
          exact wordAt_wordBytes first _
      | succ k =>
          rw [show 4 * (k + 1) = (FieldValue.wordBytes first).length + 4 * k by
            rw [FieldValue.length_wordBytes]; omega, wordAt_append]
          exact ih h

end ShaderLayout
