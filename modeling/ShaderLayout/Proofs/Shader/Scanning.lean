import Mathlib.Data.List.TakeDrop
import Mathlib.Data.List.TakeWhile
import ShaderLayout.Proofs.Name.Rendering
import ShaderLayout.Proofs.Text.Digits
import ShaderLayout.Shader.Token

/-!
Scanning goes on from one token to the next. No step leaves more than it was
given, so the bound on their number never cuts a text off, and the tokens of a
text are the one in front and those of the rest behind it.
-/

namespace ShaderLayout.Shader

open Text

/-! ### What is left -/

@[grind →]
theorem length_of_span_eq {α : Type} {p : α → Bool} {items taken rest : List α}
    (h : items.span p = (taken, rest)) : rest.length ≤ items.length := by
  rw [List.span_eq_takeWhile_dropWhile] at h
  cases h
  exact (List.dropWhile_sublist p).length_le

theorem length_skipBlock_le (depth : Nat) (text : List Char) :
    (skipBlock depth text).length ≤ text.length := by
  fun_induction skipBlock depth text <;> simp only [List.length_cons, Nat.le_refl] <;> omega

theorem length_scanFloat_le (value : Precision → Floating) (text : List Char) :
    (scanFloat value text).2.length ≤ text.length := by
  fun_cases scanFloat value text <;> simp only [List.length_cons] <;> omega

@[grind →]
theorem length_scanExponent_le {lower upper : Char} {text rest : List Char} {exponent : Int}
    (h : scanExponent lower upper text = some (exponent, rest)) : rest.length ≤ text.length := by
  revert h
  fun_cases scanExponent lower upper text <;> grind

@[grind →]
theorem length_scanFraction_lt {isDigit : Char → Bool} {text fraction rest : List Char}
    (h : scanFraction isDigit text = some (fraction, rest)) : rest.length < text.length := by
  revert h
  fun_cases scanFraction isDigit text <;> grind

theorem length_hexNumber_le (text : List Char) : (hexNumber text).2.length ≤ text.length := by
  fun_cases hexNumber text <;> grind [length_scanFloat_le]

theorem length_wholeNumber_le (digits text : List Char) :
    (wholeNumber digits text).2.length ≤ text.length := by
  fun_cases wholeNumber digits text <;> grind [length_scanFloat_le]

/-- A number starts with a digit, which is gone behind the whole part, or with a point. -/
@[grind →]
theorem startsNumber_spec {c : Char} {text whole rest : List Char} (h : startsNumber (c :: text))
    (hspan : (c :: text).span Char.isDigit = (whole, rest)) :
    rest.length ≤ text.length ∨ rest = '.' :: text := by
  rw [List.span_eq_takeWhile_dropWhile] at hspan
  cases hspan
  by_cases hdigit : c.isDigit
  · rw [List.dropWhile_cons_of_pos hdigit]
    exact Or.inl (List.dropWhile_sublist _).length_le
  · rw [List.dropWhile_cons_of_neg hdigit]
    refine Or.inr (congrArg (· :: text) ?_)
    by_contra hpoint
    rw [startsNumber] at h
    · exact hdigit h
    · intro d rest hc _
      exact hpoint hc

theorem length_decimalNumber_le {c : Char} {text : List Char} (h : startsNumber (c :: text)) :
    (decimalNumber (c :: text)).2.length ≤ text.length := by
  fun_cases decimalNumber (c :: text) <;>
    grind [scanFraction, length_scanFloat_le, length_wholeNumber_le]

theorem length_scanNumber_le {c : Char} {text : List Char} (h : startsNumber (c :: text)) :
    (scanNumber (c :: text)).2.length ≤ text.length := by
  rw [scanNumber.eq_def]
  split
  · next rest heq =>
      cases heq
      exact Nat.le_succ_of_le (length_hexNumber_le rest)
  · next rest heq =>
      cases heq
      exact Nat.le_succ_of_le (length_hexNumber_le rest)
  · exact length_decimalNumber_le h

theorem length_scanOne_le (c : Char) (rest : List Char) :
    (scanOne c rest).2.length ≤ rest.length := by
  rw [scanOne]
  split
  · exact Nat.le_refl _
  split
  · exact (List.dropWhile_sublist _).length_le
  split
  · exact (length_skipBlock_le 0 rest.tail).trans (by simp)
  split
  · exact (List.dropWhile_sublist _).length_le
  split
  · next hnumber => exact length_scanNumber_le hnumber
  · exact Nat.le_refl _

/-! ### One token and the next -/

theorem scanUpTo_of_le {count : Nat} {text : List Char} (h : text.length ≤ count) :
    scanUpTo count text = scan text := by
  have hbounds {first second : Nat} {text : List Char} (hfirst : text.length ≤ first)
      (hsecond : text.length ≤ second) : scanUpTo first text = scanUpTo second text := by
    -- One step takes at least a character, so both bounds stay large enough for the rest.
    induction first generalizing second text with
    | zero =>
        rw [List.eq_nil_of_length_eq_zero (Nat.le_zero.mp hfirst), scanUpTo.eq_def second]
        cases second <;> rfl
    | succ first ih =>
        cases text with
        | nil => cases second <;> rfl
        | cons c rest =>
            obtain ⟨second, rfl⟩ := Nat.exists_eq_succ_of_ne_zero (Nat.ne_zero_of_lt hsecond)
            have hrest := length_scanOne_le c rest
            simp only [scanUpTo]
            rw [ih (hrest.trans (Nat.le_of_succ_le_succ hfirst))
              (hrest.trans (Nat.le_of_succ_le_succ hsecond))]
  exact hbounds h (Nat.le_refl _)

theorem scan_cons (c : Char) (rest : List Char) :
    scan (c :: rest) = (scanOne c rest).1.toList ++ scan (scanOne c rest).2 := by
  rw [← scanUpTo_of_le (length_scanOne_le c rest)]
  rfl

theorem scan_blank {c : Char} (h : isBlank c) (rest : List Char) :
    scan (c :: rest) = scan rest := by
  rw [scan_cons, scanOne, if_pos h]
  rfl

theorem isLineEnd_of_any_eq_false {text : List Char} (h : text.any isLineEnd = false) :
    ∀ c ∈ text, isLineEnd c = false :=
  fun c hc => eq_false_of_ne_true (List.any_eq_false.mp h c hc)

theorem scan_comment {text : List Char} (h : ∀ c ∈ text, isLineEnd c = false) (rest : List Char) :
    scan ('/' :: '/' :: (text ++ '\n' :: rest)) = scan rest := by
  have hdrop :
      ('/' :: (text ++ '\n' :: rest)).dropWhile (fun c => !isLineEnd c) = '\n' :: rest := by
    rw [List.dropWhile_cons_of_pos (by decide), List.dropWhile_append_of_pos]
    · exact List.dropWhile_cons_of_neg (by decide)
    · intro c hc
      rw [h c hc]
      rfl
  have hbreak : isBlank '\n' := by decide
  rw [scan_cons, scanOne, if_neg (by decide), if_pos ⟨rfl, rfl⟩, hdrop]
  exact scan_blank hbreak rest

/-! ### Words and symbols -/

theorem toNat_lt_of_inIdentifier {c : Char} (h : Name.inIdentifier c) : c.toNat < 128 := by
  rcases Bool.or_eq_true_iff.mp h with halnum | hunderscore
  · exact Name.toNat_lt_of_isAlphanum halnum
  · rw [eq_of_beq hunderscore]
    decide

theorem inWord_of_inIdentifier {c : Char} (h : Name.inIdentifier c) : inWord c := by
  rw [inWord, if_pos (toNat_lt_of_inIdentifier h)]
  exact h

theorem toNat_lt_of_startsIdentifier {c : Char} (h : Name.startsIdentifier c) : c.toNat < 128 :=
  toNat_lt_of_inIdentifier (Name.inIdentifier_of_startsIdentifier h)

theorem startsWord_of_startsIdentifier {c : Char} (h : Name.startsIdentifier c) : startsWord c := by
  rw [startsWord, if_pos (toNat_lt_of_startsIdentifier h)]
  exact h

theorem isBlank_of_startsIdentifier {c : Char} (h : Name.startsIdentifier c) :
    isBlank c = false :=
  Name.of_toNat_lt (motive := fun c => Name.startsIdentifier c → isBlank c = false)
    (toNat_lt_of_startsIdentifier h) (by decide) h

/-- A character that is a token of its own, whatever follows. -/
def isMark (c : Char) : Bool :=
  !isBlank c && c != '/' && c != '.' && !startsWord c && !c.isDigit

theorem scan_mark {c : Char} (h : isMark c) {rest : List Char}
    (hrest : rest.head?.any endsOperator = false) :
    scan (c :: rest) = .symbol c false :: scan rest := by
  simp only [isMark, Bool.and_eq_true, Bool.not_eq_true', bne_iff_ne, ne_eq] at h
  obtain ⟨⟨⟨⟨hblank, hslash⟩, hpoint⟩, hword⟩, hdigit⟩ := h
  have hnumber : startsNumber (c :: rest) = false := by
    rw [startsNumber, hdigit]
    intro _ _ hc
    exact absurd hc hpoint
  rw [scan_cons, scanOne, if_neg (by rw [hblank]; decide), if_neg (fun h => hslash h.1),
    if_neg (fun h => hslash h.1), if_neg (by rw [hword]; decide), if_neg (by rw [hnumber]; decide),
    hrest]
  rfl

/-- A run of characters ends where the first one of another sort stands. -/
theorem takeWhile_append_of_head {α : Type} {p : α → Bool} {items rest : List α}
    (h : ∀ item ∈ items, p item) (hrest : ∀ item ∈ rest.head?, p item = false) :
    (items ++ rest).takeWhile p = items ∧ (items ++ rest).dropWhile p = rest := by
  rw [List.takeWhile_append_of_pos h, List.dropWhile_append_of_pos h]
  cases rest with
  | nil => exact ⟨List.append_nil items, rfl⟩
  | cons item rest =>
      have hitem : ¬p item := by simp [hrest item rfl]
      rw [List.takeWhile_cons_of_neg hitem, List.dropWhile_cons_of_neg hitem]
      exact ⟨List.append_nil items, rfl⟩

theorem scan_word {word : String} (h : Name.isIdentifier word.toList) {c : Char}
    (hc : inWord c = false) (rest : List Char) :
    scan (word.toList ++ c :: rest) = .word word :: scan (c :: rest) := by
  cases hword : word.toList with
  | nil =>
      rw [hword] at h
      cases h
  | cons d ds =>
      rw [hword] at h
      obtain ⟨hd, hds⟩ := Bool.and_eq_true_iff.mp h
      have hds : ∀ e ∈ ds, inWord e := fun e he =>
        inWord_of_inIdentifier (List.all_eq_true.mp hds e he)
      have hrest : ∀ e ∈ (c :: rest).head?, inWord e = false := by
        rintro _ ⟨⟩
        exact hc
      obtain ⟨htake, hdrop⟩ := takeWhile_append_of_head hds hrest
      have hslash : d ≠ '/' := by
        rintro rfl
        cases hd
      rw [List.cons_append, scan_cons, scanOne,
        if_neg (by rw [isBlank_of_startsIdentifier hd]; decide), if_neg (fun h => hslash h.1),
        if_neg (fun h => hslash h.1), if_pos (startsWord_of_startsIdentifier hd), htake, hdrop,
        ← hword, String.ofList_toList]
      rfl

/-- A word is no second half of an operator. -/
theorem head?_word {word : String} (h : Name.isIdentifier word.toList) (rest : List Char) :
    (word.toList ++ rest).head?.any endsOperator = false := by
  have hstart {c : Char} (hc : Name.startsIdentifier c) : endsOperator c = false :=
    Name.of_toNat_lt (motive := fun c => Name.startsIdentifier c → endsOperator c = false)
      (toNat_lt_of_startsIdentifier hc) (by decide) hc
  cases hword : word.toList with
  | nil =>
      rw [hword] at h
      cases h
  | cons c cs =>
      rw [hword] at h
      exact hstart (Bool.and_eq_true_iff.mp h).1

/-! ### Numbers -/

theorem isDigit_of_mem_toDigits {n : Nat} {c : Char} (h : c ∈ Nat.toDigits 10 n) : c.isDigit :=
  Nat.isDigit_of_mem_toDigits (by decide) (by decide) h

theorem isAlphanum_of_isDigit {c : Char} (h : c.isDigit) : c.isAlphanum :=
  Bool.or_eq_true_iff.mpr (Or.inr h)

theorem isDigit_spec {c : Char} (hc : c.isDigit) :
    isBlank c = false ∧ c ≠ '/' ∧ startsWord c = false ∧ endsOperator c = false :=
  Name.of_toNat_lt (motive := fun c =>
      c.isDigit → isBlank c = false ∧ c ≠ '/' ∧ startsWord c = false ∧ endsOperator c = false)
    (Name.toNat_lt_of_isAlphanum (isAlphanum_of_isDigit hc)) (by decide) hc

theorem scan_digit {c : Char} (hc : c.isDigit) (rest : List Char) :
    scan (c :: rest) = (scanNumber (c :: rest)).1 :: scan (scanNumber (c :: rest)).2 := by
  obtain ⟨hblank, hslash, hword, -⟩ := isDigit_spec hc
  have hnumber : startsNumber (c :: rest) := by
    rw [startsNumber, hc]
    rintro _ _ rfl
    cases hc
  rw [scan_cons, scanOne, if_neg (by rw [hblank]; decide), if_neg (fun h => hslash h.1),
    if_neg (fun h => hslash h.1), if_neg (by rw [hword]; decide), if_pos hnumber]
  rfl

theorem head?_toDigits (n : Nat) (rest : List Char) :
    (Nat.toDigits 10 n ++ rest).head?.any endsOperator = false := by
  have hdigits {c : Char} (hc : c ∈ Nat.toDigits 10 n) := isDigit_of_mem_toDigits hc
  cases hn : Nat.toDigits 10 n with
  | nil => exact absurd hn Nat.toDigits_ne_nil
  | cons c cs =>
      rw [hn] at hdigits
      exact (isDigit_spec (hdigits List.mem_cons_self)).2.2.2

/-- Only zero is written with a zero in front. -/
theorem head?_toDigits_ne_zero {n : Nat} (h : 0 < n) : (Nat.toDigits 10 n).head? ≠ some '0' := by
  have hdigit : ∀ digit < 10, 0 < digit → [Nat.digitChar digit].head? ≠ some '0' := by decide
  induction n using Nat.strong_induction_on with
  | _ n ih =>
      rcases Nat.lt_or_ge n 10 with hlt | hle
      · rw [Nat.toDigits_of_lt_base hlt]
        exact hdigit n hlt h
      · rw [Nat.toDigits_of_base_le (by decide) hle,
          List.head?_append_of_ne_nil _ Nat.toDigits_ne_nil]
        exact ih (n / 10) (by omega) (by omega)

/-- A number in digits goes up to a letter for its type or to a parenthesis. -/
theorem scanNumber_toDigits (n : Nat) {c : Char} (hc : c = 'u' ∨ c = ')') (rest : List Char) :
    scanNumber (Nat.toDigits 10 n ++ c :: rest) = wholeNumber (Nat.toDigits 10 n) (c :: rest) := by
  have hother : c.isDigit = false ∧ c ≠ '.' ∧ c ≠ 'e' ∧ c ≠ 'E' ∧ c ≠ 'x' ∧ c ≠ 'X' := by
    rcases hc with rfl | rfl <;> decide
  obtain ⟨hdigit, hpoint, hlower, hupper, hx, hX⟩ := hother
  -- The second character is a digit too, or the one behind the number.
  have hsecond {first second : Char} {text : List Char}
      (h : Nat.toDigits 10 n ++ c :: rest = first :: second :: text) :
      second.isDigit ∨ second = c := by
    have hdigits {d : Char} (hd : d ∈ Nat.toDigits 10 n) := isDigit_of_mem_toDigits hd
    cases hn : Nat.toDigits 10 n with
    | nil => exact absurd hn Nat.toDigits_ne_nil
    | cons d ds =>
        rw [hn] at h hdigits
        cases ds with
        | nil =>
            cases h
            exact Or.inr rfl
        | cons e es =>
            cases h
            exact Or.inl (hdigits (by simp))
  have hspan : (Nat.toDigits 10 n ++ c :: rest).span Char.isDigit =
      (Nat.toDigits 10 n, c :: rest) := by
    have hrest : ∀ d ∈ (c :: rest).head?, Char.isDigit d = false := by
      rintro _ ⟨⟩
      exact hdigit
    obtain ⟨htake, hdrop⟩ := takeWhile_append_of_head (p := Char.isDigit)
      (fun d hd => isDigit_of_mem_toDigits hd) hrest
    rw [List.span_eq_takeWhile_dropWhile, htake, hdrop]
  have hfraction : scanFraction Char.isDigit (c :: rest) = none := by
    rw [scanFraction]
    rintro text ⟨⟩
    exact hpoint rfl
  have hexponent : startsExponent 'e' 'E' (c :: rest) = false := by
    simp [startsExponent, hlower, hupper]
  rw [scanNumber.eq_def]
  split
  · next text h =>
      rcases hsecond h with hsecond | hsecond
      · cases hsecond
      · exact absurd hsecond.symm hx
  · next text h =>
      rcases hsecond h with hsecond | hsecond
      · cases hsecond
      · exact absurd hsecond.symm hX
  · simp only [decimalNumber, hspan, hfraction, hexponent]
    rfl

theorem scan_number (n : Nat) {c : Char} (hc : c = 'u' ∨ c = ')') (rest : List Char) :
    scan (Nat.toDigits 10 n ++ c :: rest) =
      (wholeNumber (Nat.toDigits 10 n) (c :: rest)).1 ::
        scan (wholeNumber (Nat.toDigits 10 n) (c :: rest)).2 := by
  have hdigits {d : Char} (hd : d ∈ Nat.toDigits 10 n) := isDigit_of_mem_toDigits hd
  rw [← scanNumber_toDigits n hc]
  cases hn : Nat.toDigits 10 n with
  | nil => exact absurd hn Nat.toDigits_ne_nil
  | cons d ds =>
      rw [hn] at hdigits
      exact scan_digit (hdigits List.mem_cons_self) _

theorem wholeNumber_toDigits (n : Nat) (rest : List Char) :
    wholeNumber (Nat.toDigits 10 n) ('u' :: rest) = (integerToken (some .u32) n, rest) ∧
    wholeNumber (Nat.toDigits 10 n) (')' :: rest) = (integerToken none n, ')' :: rest) := by
  have hzero : ¬((Nat.toDigits 10 n).length > 1 ∧ (Nat.toDigits 10 n).head? = some '0') := by
    rintro ⟨hlength, hhead⟩
    rcases Nat.eq_zero_or_pos n with rfl | hpos
    · simp at hlength
    · exact head?_toDigits_ne_zero hpos hhead
  have hvalue : ofDigits 10 (Nat.toDigits 10 n) = n := ofDigits_toDigits (by decide) (by decide) n
  constructor <;> simp [wholeNumber, hzero, hvalue]

theorem scan_unsigned (n : Nat) (rest : List Char) :
    scan (Nat.toDigits 10 n ++ 'u' :: rest) = integerToken (some .u32) n :: scan rest := by
  rw [scan_number n (Or.inl rfl), (wholeNumber_toDigits n rest).1]

theorem scan_index (n : Nat) (rest : List Char) :
    scan (Nat.toDigits 10 n ++ ')' :: rest) = integerToken none n :: scan (')' :: rest) := by
  rw [scan_number n (Or.inr rfl), (wholeNumber_toDigits n rest).2]

/-! A number is no word, well formed or not. -/

theorem integerToken_ne_word (type : Option Scalar) (value : Nat) (word : String) :
    integerToken type value ≠ .word word := by
  have hbound (bound : Nat) :
      (if value < bound then Token.number (.integer type value) else .badNumber) ≠ .word word := by
    split <;> exact nofun
  exact hbound _

theorem floatToken_ne_word (type : Option Scalar) (value : Floating) (word : String) :
    floatToken type value ≠ .word word := by
  rw [floatToken]
  split <;> exact nofun

theorem scanFloat_ne_word (value : Precision → Floating) (text : List Char) (word : String) :
    (scanFloat value text).1 ≠ .word word := by
  fun_cases scanFloat value text <;> grind [floatToken_ne_word]

theorem scanNumber_ne_word (text : List Char) (word : String) :
    (scanNumber text).1 ≠ .word word := by
  have hhex (text : List Char) : (hexNumber text).1 ≠ .word word := by
    fun_cases hexNumber text <;> grind [floatToken_ne_word, integerToken_ne_word, scanFloat_ne_word]
  have hwhole (digits text : List Char) : (wholeNumber digits text).1 ≠ .word word := by
    fun_cases wholeNumber digits text <;> grind [integerToken_ne_word, scanFloat_ne_word]
  have hdecimal : (decimalNumber text).1 ≠ .word word := by
    fun_cases decimalNumber text <;> grind [scanFloat_ne_word]
  fun_cases scanNumber text
  · exact hhex _
  · exact hhex _
  · exact hdecimal

end ShaderLayout.Shader
