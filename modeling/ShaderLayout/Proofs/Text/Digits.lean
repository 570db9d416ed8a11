import ShaderLayout.Text.Digits

/-!
Digits that numbers are written in, up to base sixteen. They are digits of the
reader, which gets the number back from them.
-/

namespace ShaderLayout.Text

theorem digitValue_digitChar : ∀ digit < 16, digitValue (Nat.digitChar digit) = digit := by
  decide

theorem isHexDigit_digitChar : ∀ digit < 16, isHexDigit (Nat.digitChar digit) := by
  decide

theorem ofDigits_append_singleton (base : Nat) (digits : List Char) (c : Char) :
    ofDigits base (digits ++ [c]) = ofDigits base digits * base + digitValue c := by
  rw [ofDigits, List.foldl_append]
  rfl

variable {base : Nat}

/-- A number is written as a single digit, or as the digits of its part without the last one and
the last one. -/
theorem toDigits_induction (hbase : 1 < base) {motive : Nat → List Char → Prop}
    (single : ∀ digit < base, motive digit [Nat.digitChar digit])
    (append : ∀ n digit, digit < base → motive n (Nat.toDigits base n) →
      motive (n * base + digit) (Nat.toDigits base n ++ [Nat.digitChar digit])) (n : Nat) :
    motive n (Nat.toDigits base n) := by
  induction n using Nat.strongRecOn with
  | _ n ih =>
      rcases Nat.lt_or_ge n base with hlt | hle
      · rw [Nat.toDigits_of_lt_base hlt]
        exact single n hlt
      · have hstep := append (n / base) (n % base) (Nat.mod_lt n (Nat.zero_lt_of_lt hbase))
          (ih (n / base) (Nat.div_lt_self (by omega) hbase))
        rwa [Nat.div_add_mod', ← Nat.toDigits_of_base_le hbase hle] at hstep

theorem ofDigits_toDigits (hbase : 1 < base) (hhex : base ≤ 16) (n : Nat) :
    ofDigits base (Nat.toDigits base n) = n := by
  induction n using toDigits_induction hbase with
  | single digit hdigit =>
      rw [ofDigits, List.foldl_cons, List.foldl_nil, Nat.zero_mul, Nat.zero_add]
      exact digitValue_digitChar digit (Nat.lt_of_lt_of_le hdigit hhex)
  | append n digit hdigit ih =>
      rw [ofDigits_append_singleton, ih,
        digitValue_digitChar digit (Nat.lt_of_lt_of_le hdigit hhex)]

theorem all_isHexDigit_toDigits (hbase : 1 < base) (hhex : base ≤ 16) (n : Nat) :
    (Nat.toDigits base n).all isHexDigit := by
  induction n using toDigits_induction hbase with
  | single digit hdigit =>
      rw [List.all_cons, List.all_nil, Bool.and_true]
      exact isHexDigit_digitChar digit (Nat.lt_of_lt_of_le hdigit hhex)
  | append n digit hdigit ih =>
      rw [List.all_append, ih, Bool.true_and, List.all_cons, List.all_nil, Bool.and_true]
      exact isHexDigit_digitChar digit (Nat.lt_of_lt_of_le hdigit hhex)

end ShaderLayout.Text
