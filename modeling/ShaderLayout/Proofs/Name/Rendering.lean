import Mathlib.Data.List.SplitBy
import ShaderLayout.Name.Identifier

/-!
How the renderings of a name depend on one another. The words of a name are
nonempty and without underscores, so the rendering in capitals shows where they
end, and the Pascal rendering can be told from it. Two names with one rendering
in capitals thus have one Pascal rendering, and then one camel rendering too.
-/

namespace ShaderLayout.Name

/-! Small and capital letters. Characters above ASCII have neither. -/

theorem toUpper_of_le {c : Char} (h : 128 ≤ c.toNat) : c.toUpper = c := by
  refine dif_neg fun hlower => ?_
  have hle : c.toNat ≤ 122 := hlower.2
  omega

theorem toLower_of_le {c : Char} (h : 128 ≤ c.toNat) : c.toLower = c := by
  refine dif_neg fun hupper => ?_
  have hle : c.toNat ≤ 90 := hupper.2
  omega

theorem of_toNat_lt {motive : Char → Prop} {c : Char} (h : c.toNat < 128)
    (hascii : ∀ code < 128, motive (Char.ofNat code)) : motive c := by
  rw [← Char.ofNat_toNat c]
  exact hascii c.toNat h

/-- A property of characters that holds of those of ASCII and of all above. -/
@[elab_as_elim]
theorem forall_char {motive : Char → Prop} (hascii : ∀ code < 128, motive (Char.ofNat code))
    (hother : ∀ c : Char, 128 ≤ c.toNat → motive c) (c : Char) : motive c := by
  by_cases h : c.toNat < 128
  · exact of_toNat_lt h hascii
  · exact hother c (Nat.not_lt.mp h)

theorem toNat_lt_of_isAlphanum {c : Char} (h : c.isAlphanum) : c.toNat < 128 := by
  rcases Bool.or_eq_true_iff.mp h with halpha | hdigit
  · rcases Bool.or_eq_true_iff.mp halpha with hupper | hlower
    · have hle : c.val ≤ 90 := (of_decide_eq_true hupper).2
      exact Nat.lt_of_le_of_lt hle (by decide)
    · have hle : c.val ≤ 122 := of_decide_eq_true (Bool.and_eq_true_iff.mp hlower).2
      exact Nat.lt_of_le_of_lt hle (by decide)
  · have hle : c.val ≤ 57 := of_decide_eq_true (Bool.and_eq_true_iff.mp hdigit).2
    exact Nat.lt_of_le_of_lt hle (by decide)

theorem toUpper_toUpper (c : Char) : c.toUpper.toUpper = c.toUpper := by
  refine forall_char (by decide) ?_ c
  intro c h
  rw [toUpper_of_le h, toUpper_of_le h]

theorem toLower_toUpper (c : Char) : c.toUpper.toLower = c.toLower := by
  refine forall_char (by decide) ?_ c
  intro c h
  rw [toUpper_of_le h]

theorem toUpper_ne_underscore {c : Char} : c ≠ '_' → c.toUpper ≠ '_' := by
  refine forall_char (by decide) ?_ c
  intro c h
  rw [toUpper_of_le h]
  exact id

theorem capitalize_map_toUpper (word : List Char) :
    capitalize (word.map Char.toUpper) = capitalize word := by
  cases word with
  | nil => rfl
  | cons c cs =>
      rw [List.map_cons, capitalize, capitalize, toUpper_toUpper, List.map_map]
      exact congrArg _ (List.map_congr_left fun d _ => toLower_toUpper d)

/-! Accepted names. -/

theorem isAccepted_iff {name : String} :
    isAccepted name ↔ isIdentifier name.toList ∧ startsReserved name.toList = false ∧
      pascalChars name ≠ [] ∧ isReserved name = false ∧ isReserved (pascal name) = false ∧
      isReserved (camel name) = false := by
  simp only [isAccepted, Bool.and_eq_true, Bool.not_eq_true', List.isEmpty_eq_false_iff, and_assoc,
    ne_eq]

/-! Words and renderings. -/

theorem mem_splitOn_spec {c : Char} {text piece : List Char} (h : piece ∈ text.splitOn c) :
    c ∉ piece ∧ piece ⊆ text := by
  induction text generalizing piece with
  | nil => simp_all
  | cons d text ih =>
      rw [List.splitOn_cons_eq_if_modifyHead] at h
      obtain ⟨first, rest, hsplit⟩ := List.exists_cons_of_ne_nil (List.splitOn_ne_nil c text)
      rw [hsplit] at h ih
      obtain ⟨hfirst, hrest⟩ := List.forall_mem_cons.mp fun _ => ih
      split at h
      · rcases List.mem_cons.mp h with rfl | h
        · exact ⟨List.not_mem_nil, List.nil_subset _⟩
        · exact ⟨(ih h).1, List.subset_cons_of_subset d (ih h).2⟩
      · next hd =>
          rcases List.mem_cons.mp h with rfl | h
          · refine ⟨?_, List.cons_subset_cons d hfirst.2⟩
            rintro (_ | ⟨_, hmem⟩)
            · exact hd (beq_self_eq_true c)
            · exact hfirst.1 hmem
          · exact ⟨(hrest piece h).1, List.subset_cons_of_subset d (hrest piece h).2⟩

theorem words_spec {name : String} {word : List Char} (h : word ∈ words name) :
    word ≠ [] ∧ '_' ∉ word ∧ word ⊆ name.toList := by
  obtain ⟨piece, hpiece, hword⟩ := List.mem_flatMap.mp h
  obtain ⟨hunderscore, hname⟩ := mem_splitOn_spec hpiece
  have hsubset : word ⊆ piece := by
    intro c hc
    rw [← List.flatten_splitBy continues piece]
    exact List.mem_flatten.mpr ⟨word, hword, hc⟩
  exact ⟨List.ne_nil_of_mem_splitBy hword, fun hmem => hunderscore (hsubset hmem),
    fun _ hmem => hname (hsubset hmem)⟩

/-! Identifiers. -/

theorem isAlphanum_toUpper {c : Char} : c.isAlphanum → c.toUpper.isAlphanum := by
  refine forall_char (by decide) ?_ c
  intro c h
  rw [toUpper_of_le h]
  exact id

theorem isAlphanum_toLower {c : Char} : c.isAlphanum → c.toLower.isAlphanum := by
  refine forall_char (by decide) ?_ c
  intro c h
  rw [toLower_of_le h]
  exact id

theorem inIdentifier_of_isAlphanum {c : Char} (h : c.isAlphanum) : inIdentifier c :=
  Bool.or_eq_true_iff.mpr (Or.inl h)

theorem inIdentifier_of_startsIdentifier {c : Char} (h : startsIdentifier c) : inIdentifier c := by
  rcases Bool.or_eq_true_iff.mp h with halpha | hunderscore
  · simp [inIdentifier, Char.isAlphanum, halpha]
  · simp [inIdentifier, hunderscore]

theorem inIdentifier_of_isIdentifier {text : List Char} (h : isIdentifier text) {c : Char}
    (hc : c ∈ text) : inIdentifier c := by
  cases text with
  | nil => cases hc
  | cons d ds =>
      obtain ⟨hd, hds⟩ := Bool.and_eq_true_iff.mp h
      rcases List.mem_cons.mp hc with rfl | hc
      · exact inIdentifier_of_startsIdentifier hd
      · exact List.all_eq_true.mp hds c hc

/-- The characters of words are letters and digits. -/
theorem isAlphanum_of_mem_word {name : String} (h : isIdentifier name.toList) {word : List Char}
    (hword : word ∈ words name) {c : Char} (hc : c ∈ word) : c.isAlphanum := by
  obtain ⟨-, hunderscore, hsubset⟩ := words_spec hword
  rcases Bool.or_eq_true_iff.mp (inIdentifier_of_isIdentifier h (hsubset hc)) with halnum | heq
  · exact halnum
  · exact absurd (eq_of_beq heq ▸ hc) hunderscore

theorem isAlphanum_of_mem_pascalChars {name : String} (h : isIdentifier name.toList) {c : Char}
    (hc : c ∈ pascalChars name) : c.isAlphanum := by
  obtain ⟨word, hword, hc⟩ := List.mem_flatMap.mp hc
  have hchars {d : Char} (hd : d ∈ word) := isAlphanum_of_mem_word h hword hd
  cases word with
  | nil => cases hc
  | cons d ds =>
      rcases List.mem_cons.mp hc with rfl | hc
      · exact isAlphanum_toUpper (hchars List.mem_cons_self)
      · obtain ⟨e, he, rfl⟩ := List.mem_map.mp hc
        exact isAlphanum_toLower (hchars (List.mem_cons_of_mem d he))

theorem mem_of_mem_intercalate {sep c : Char} {parts : List (List Char)}
    (h : c ∈ [sep].intercalate parts) : c = sep ∨ ∃ part ∈ parts, c ∈ part := by
  induction parts with
  | nil => simp [List.intercalate_nil] at h
  | cons part parts ih =>
      by_cases hlast : parts = []
      · subst hlast
        exact Or.inr ⟨part, List.mem_singleton_self part, by simpa using h⟩
      · rw [List.intercalate_cons_of_ne_nil hlast, List.mem_append, List.mem_append] at h
        rcases h with (h | h) | h
        · exact Or.inr ⟨part, List.mem_cons_self, h⟩
        · exact Or.inl (List.mem_singleton.mp h)
        · exact (ih h).imp_right fun ⟨other, hother, hc⟩ =>
            ⟨other, List.mem_cons_of_mem part hother, hc⟩

theorem inIdentifier_of_mem_shouty {name : String} (h : isIdentifier name.toList) {c : Char}
    (hc : c ∈ (shouty name).toList) : inIdentifier c := by
  rw [toList_shouty] at hc
  rcases mem_of_mem_intercalate hc with rfl | ⟨_, hpart, hc⟩
  · decide
  · obtain ⟨word, hword, rfl⟩ := List.mem_map.mp hpart
    obtain ⟨d, hd, rfl⟩ := List.mem_map.mp hc
    exact inIdentifier_of_isAlphanum (isAlphanum_toUpper (isAlphanum_of_mem_word h hword hd))

/-! One rendering and another. -/

/-- The Pascal rendering, told from the one in capitals. -/
theorem pascalChars_eq_of_shouty (name : String) :
    pascalChars name = ((shouty name).toList.splitOn '_').flatMap capitalize := by
  rw [pascalChars, toList_shouty]
  by_cases hwords : words name = []
  · rw [hwords]
    rfl
  · rw [List.splitOn_intercalate '_' _ (by simpa using hwords), List.flatMap_map]
    · simp only [capitalize_map_toUpper]
    · intro shouted hshouted hmem
      obtain ⟨word, hword, rfl⟩ := List.mem_map.mp hshouted
      obtain ⟨c, hc, hupper⟩ := List.mem_map.mp hmem
      refine toUpper_ne_underscore ?_ hupper
      rintro rfl
      exact (words_spec hword).2.1 hc

theorem pascal_eq_of_shouty_eq {first second : String} (h : shouty first = shouty second) :
    pascal first = pascal second := by
  rw [pascal, pascal, pascalChars_eq_of_shouty, h, ← pascalChars_eq_of_shouty]

theorem camel_eq_of_pascal_eq {first second : String} (h : pascal first = pascal second) :
    camel first = camel second := by
  rw [camel, camel, ← toList_pascal, h, toList_pascal]

end ShaderLayout.Name
