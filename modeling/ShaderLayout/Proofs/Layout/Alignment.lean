import ShaderLayout.Layout.Block

/-!
Rounding up to an alignment. The rounded number is the least multiple of the
alignment that is not below the given one. Alignments of fields are four, eight
or sixteen, and that of a block is the largest among them, so that each of two
alignments divides the larger one.
-/

namespace ShaderLayout

theorem dvd_alignUp (n align : Nat) : align ∣ alignUp n align :=
  Nat.dvd_mul_left align _

theorem le_alignUp (n : Nat) {align : Nat} (h : 0 < align) : n ≤ alignUp n align := by
  have hdiv := Nat.div_add_mod (n + align - 1) align
  have hmod := Nat.mod_lt (n + align - 1) h
  rw [alignUp, Nat.mul_comm]
  omega

theorem alignUp_lt (n : Nat) {align : Nat} (h : 0 < align) : alignUp n align < n + align := by
  have hmul := Nat.div_mul_le_self (n + align - 1) align
  rw [alignUp]
  omega

theorem alignUp_le {n align bound : Nat} (h : 0 < align) (hdvd : align ∣ bound) (hn : n ≤ bound) :
    alignUp n align ≤ bound := by
  obtain ⟨k, rfl⟩ := hdvd
  have hlt := alignUp_lt n h
  obtain ⟨m, hm⟩ := dvd_alignUp n align
  rw [hm] at hlt ⊢
  have hmk : m < k + 1 := by
    apply Nat.lt_of_mul_lt_mul_left (a := align)
    rw [Nat.mul_succ]
    omega
  exact Nat.mul_le_mul_left align (Nat.lt_succ_iff.mp hmk)

theorem alignUp_of_dvd {n align : Nat} (h : 0 < align) (hdvd : align ∣ n) : alignUp n align = n :=
  Nat.le_antisymm (alignUp_le h hdvd (Nat.le_refl n)) (le_alignUp n h)

/-- Rounding up to eight or sixteen closes a gap of four bytes in front of a multiple of
sixteen. -/
theorem alignUp_of_gap {n align : Nat} (h8 : 8 ∣ align) (h16 : align ∣ 16) (hn : 16 ∣ n + 4) :
    alignUp n align = n + 4 := by
  have hpos : 0 < align := Nat.pos_of_dvd_of_pos h16 (by decide)
  have hle := alignUp_le hpos (Nat.dvd_trans h16 hn) (Nat.le_add_right n 4)
  have hge := le_alignUp n hpos
  have hdvd := Nat.dvd_trans h8 (dvd_alignUp n align)
  -- From `n` to `n + 4` there is one multiple of eight only, and it is the last of them.
  omega

namespace FieldType

theorem align_cases (type : FieldType) : type.align = 4 ∨ type.align = 8 ∨ type.align = 16 := by
  cases type <;> decide

theorem four_dvd_align (type : FieldType) : 4 ∣ type.align := by
  cases type <;> decide

theorem align_dvd_sixteen (type : FieldType) : type.align ∣ 16 := by
  cases type <;> decide

theorem four_dvd_size (rules : LayoutRules) (type : FieldType) : 4 ∣ type.size rules := by
  cases rules <;> cases type <;> decide

theorem four_dvd_hostSize (type : FieldType) : 4 ∣ type.hostSize := by
  cases type <;> decide

end FieldType

namespace Block

/-- The strictest alignment of some fields, as a block of them has it. -/
theorem align_cases (block : Block) :
    block.align = 1 ∨ block.align = 4 ∨ block.align = 8 ∨ block.align = 16 := by
  rw [align]
  induction block.fields with
  | nil => exact Or.inl rfl
  | cons field fields ih =>
      have hfield := field.type.align_cases
      simp only [List.foldr_cons]
      omega

theorem align_pos (block : Block) : 0 < block.align := by
  have h := block.align_cases
  omega

theorem align_dvd_sixteen (block : Block) : block.align ∣ 16 := by
  rcases block.align_cases with h | h | h | h <;> rw [h] <;> decide

theorem le_align {block : Block} {field : Field} (h : field ∈ block.fields) :
    field.type.align ≤ block.align := by
  rw [align]
  generalize block.fields = fields at h ⊢
  induction fields with
  | nil => cases h
  | cons first fields ih =>
      simp only [List.foldr_cons]
      rcases List.mem_cons.mp h with rfl | hrest
      · exact Nat.le_max_left ..
      · exact Nat.le_trans (ih hrest) (Nat.le_max_right ..)

theorem align_dvd {block : Block} {field : Field} (h : field ∈ block.fields) :
    field.type.align ∣ block.align := by
  have hle := le_align h
  rcases field.type.align_cases with hf | hf | hf <;>
    rcases block.align_cases with hb | hb | hb | hb <;>
      rw [hf, hb] at hle ⊢ <;> omega

end Block

end ShaderLayout
