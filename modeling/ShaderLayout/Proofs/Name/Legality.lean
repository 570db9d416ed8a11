import ShaderLayout.Proofs.Name.Rendering

/-!
Whether the renderings of a name are identifiers themselves. They have letters
and digits only and are not empty. Underscores they drop, so that a digit behind
a leading underscore comes first; this is all that can go wrong.
-/

namespace ShaderLayout.Name

/-- A digit behind a leading underscore. -/
def HidesDigit (name : String) : Prop :=
  ∃ digit rest, name.toList = '_' :: digit :: rest ∧ digit.isDigit

variable {name : String}

/-! Characters. -/

theorem startsIdentifier_iff {c : Char} (h : c.isAlphanum) :
    startsIdentifier c ↔ ¬c.isDigit :=
  of_toNat_lt (motive := fun c => c.isAlphanum → (startsIdentifier c ↔ ¬c.isDigit))
    (toNat_lt_of_isAlphanum h) (by decide) h

theorem isDigit_toUpper (c : Char) : c.toUpper.isDigit = c.isDigit := by
  refine forall_char (by decide) ?_ c
  intro c h
  rw [toUpper_of_le h]

theorem isDigit_toLower (c : Char) : c.toLower.isDigit = c.isDigit := by
  refine forall_char (by decide) ?_ c
  intro c h
  rw [toLower_of_le h]

theorem isIdentifier_cons_iff {c : Char} {cs : List Char} (hc : c.isAlphanum)
    (hcs : ∀ d ∈ cs, d.isAlphanum) : isIdentifier (c :: cs) ↔ ¬c.isDigit := by
  have hrest : cs.all inIdentifier :=
    List.all_eq_true.mpr fun d hd => inIdentifier_of_isAlphanum (hcs d hd)
  rw [isIdentifier, hrest, Bool.and_true, startsIdentifier_iff hc]

/-! Renderings. -/

theorem pascal_spec (h : isAccepted name) :
    ∃ c cs, (pascal name).toList = c :: cs ∧ c.isAlphanum ∧ ∀ d ∈ cs, d.isAlphanum := by
  obtain ⟨hname, -, hpascal, -⟩ := isAccepted_iff.mp h
  obtain ⟨c, cs, hchars⟩ := List.exists_cons_of_ne_nil hpascal
  have halnum : ∀ d ∈ c :: cs, d.isAlphanum := fun d hd =>
    isAlphanum_of_mem_pascalChars hname (hchars ▸ hd)
  exact ⟨c, cs, (toList_pascal name).trans hchars, List.forall_mem_cons.mp halnum⟩

/-- A Pascal rendering is spelled as an identifier unless it starts with a digit. -/
theorem isIdentifier_pascal_iff (h : isAccepted name) :
    isIdentifier (pascal name).toList ↔ (pascal name).toList.head?.any Char.isDigit = false := by
  obtain ⟨c, cs, hchars, hc, hcs⟩ := pascal_spec h
  rw [hchars, isIdentifier_cons_iff hc hcs]
  exact Bool.eq_false_iff.symm

/-- The two renderings differ in the case of the first letter, and digits have none. -/
theorem isIdentifier_camel_iff (h : isAccepted name) :
    isIdentifier (camel name).toList ↔ isIdentifier (pascal name).toList := by
  obtain ⟨c, cs, hchars, hc, hcs⟩ := pascal_spec h
  rw [toList_camel, ← toList_pascal, hchars, uncapitalize,
    isIdentifier_cons_iff (isAlphanum_toLower hc) hcs, isIdentifier_cons_iff hc hcs,
    isDigit_toLower]

/-! The first character of a rendering. -/

theorem flatten_splitOn (c : Char) (text : List Char) :
    (text.splitOn c).flatten = text.filter (· != c) := by
  induction text with
  | nil => rfl
  | cons d text ih =>
      obtain ⟨first, rest, hsplit⟩ := List.exists_cons_of_ne_nil (List.splitOn_ne_nil c text)
      rw [hsplit] at ih
      rw [List.splitOn_cons_eq_if_modifyHead, hsplit, List.filter_cons, ← ih]
      by_cases hd : d = c
      · rw [if_pos (beq_iff_eq.mpr hd), if_neg (by simpa using hd)]
        rfl
      · rw [if_neg (by simpa using hd), if_pos (by simpa using hd)]
        rfl

/-- Words lose nothing but the underscores. -/
theorem flatten_words (name : String) : (words name).flatten = name.toList.filter (· != '_') := by
  have hpieces : List.flatten ∘ List.splitBy continues = id :=
    funext (List.flatten_splitBy continues)
  rw [words, List.flatMap_def, List.flatten_flatten, List.map_map, hpieces, List.map_id,
    flatten_splitOn]

theorem head?_flatMap_capitalize {words : List (List Char)} (h : ∀ word ∈ words, word ≠ []) :
    (words.flatMap capitalize).head? = words.flatten.head?.map Char.toUpper := by
  cases words with
  | nil => rfl
  | cons word words =>
      obtain ⟨c, cs, rfl⟩ := List.exists_cons_of_ne_nil (h word List.mem_cons_self)
      rfl

theorem head?_pascalChars (name : String) :
    (pascalChars name).head? = (name.toList.find? (· != '_')).map Char.toUpper := by
  rw [pascalChars, head?_flatMap_capitalize fun word hword => (words_spec hword).1, flatten_words,
    List.head?_filter]

/-- What comes first in an accepted name without its underscores is a digit when one stands behind
the only underscore that may lead. -/
theorem exists_find?_underscore (h : isAccepted name) :
    ∃ c, name.toList.find? (· != '_') = some c ∧ (c.isDigit ↔ HidesDigit name) := by
  obtain ⟨hname, hreserved, hpascal, -⟩ := isAccepted_iff.mp h
  have hfind : name.toList.find? (· != '_') ≠ none := by
    intro hnone
    have hhead := head?_pascalChars name
    rw [hnone, Option.map_none, List.head?_eq_none_iff] at hhead
    exact hpascal hhead
  cases hchars : name.toList with
  | nil =>
      rw [hchars] at hname
      cases hname
  | cons d ds =>
      rw [hchars] at hname hreserved hfind
      by_cases hd : d = '_'
      · subst hd
        rw [List.find?_cons_of_neg (by decide)] at hfind ⊢
        cases ds with
        | nil => exact absurd rfl hfind
        | cons e es =>
            have he : e ≠ '_' := by
              rintro rfl
              cases hreserved
            refine ⟨e, List.find?_cons_of_pos (bne_iff_ne.mpr he), fun hdigit => ?_, ?_⟩
            · exact ⟨e, es, hchars, hdigit⟩
            · rintro ⟨digit, rest, htext, hdigit⟩
              cases hchars.symm.trans htext
              exact hdigit
      · refine ⟨d, List.find?_cons_of_pos (bne_iff_ne.mpr hd), iff_of_false ?_ ?_⟩
        · intro hdigit
          have halnum : d.isAlphanum := Bool.or_eq_true_iff.mpr (Or.inr hdigit)
          exact (startsIdentifier_iff halnum).mp (Bool.and_eq_true_iff.mp hname).1 hdigit
        · rintro ⟨digit, rest, htext, -⟩
          cases hchars.symm.trans htext
          exact hd rfl

theorem isIdentifier_pascal_iff_not_hidesDigit (h : isAccepted name) :
    isIdentifier (pascal name).toList ↔ ¬HidesDigit name := by
  obtain ⟨c, hfind, hdigit⟩ := exists_find?_underscore h
  rw [isIdentifier_pascal_iff h, toList_pascal, head?_pascalChars, hfind, ← hdigit]
  simp [isDigit_toUpper]

end ShaderLayout.Name
