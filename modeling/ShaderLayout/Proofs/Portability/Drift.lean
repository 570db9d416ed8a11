import ShaderLayout.Proofs.Layout.Comparison

/-!
The drift between the two rule sets. A vector of three floats ends four bytes
earlier under WGSL than under Metal. Whatever is aligned to eight or more closes
the gap, and so does the end of the block; only a scalar falls into it. Up to
the first scalar right behind such a vector all fields have one offset.
-/

namespace ShaderLayout

def FieldType.IsScalar (type : FieldType) : Prop :=
  type = .float ∨ type = .int ∨ type = .uint

/-- A vector of three floats and a scalar, which would fit into the last four bytes of the vector's
slot. -/
def Field.Tight (vector scalar : Field) : Prop :=
  vector.type = .float3 ∧ scalar.type.IsScalar

def HasTightPair (fields : List Field) : Prop :=
  ∃ vector scalar, [vector, scalar] <:+: fields ∧ vector.Tight scalar

namespace FieldType

theorem IsScalar.align_eq {type : FieldType} (h : type.IsScalar) : type.align = 4 := by
  rcases h with rfl | rfl | rfl <;> rfl

theorem eight_dvd_align {type : FieldType} (h : ¬type.IsScalar) : 8 ∣ type.align := by
  cases type <;> simp_all [IsScalar, align]

theorem size_eq_size {type : FieldType} (h : type ≠ .float3) :
    type.size .metal = type.size .wgsl := by
  cases type <;> first | rfl | exact absurd rfl h

end FieldType

/-! Pairs in a list of fields. -/

theorem not_hasTightPair_of_append {first second : List Field}
    (h : ¬HasTightPair (first ++ second)) : ¬HasTightPair first := by
  rintro ⟨vector, scalar, hinfix, htight⟩
  exact h ⟨vector, scalar, hinfix.trans (List.prefix_append first second).isInfix, htight⟩

theorem not_tight_of_concat {fields : List Field} {last field : Field}
    (h : ¬HasTightPair (fields ++ [field])) (hlast : fields.getLast? = some last) :
    ¬last.Tight field := by
  intro htight
  obtain ⟨init, rfl⟩ := List.getLast?_eq_some_iff.mp hlast
  exact h ⟨last, field, ⟨init, [], by simp⟩, htight⟩

/-- The first pair, with no pair before its scalar. -/
theorem exists_first_tight {fields : List Field} (h : HasTightPair fields) :
    ∃ before vector scalar after, fields = before ++ vector :: scalar :: after ∧
      vector.Tight scalar ∧ ¬HasTightPair (before ++ [vector]) := by
  -- From the end: the last field makes the first pair only if there is none before it.
  induction fields using List.reverseRecOn with
  | nil =>
      obtain ⟨vector, scalar, hinfix, -⟩ := h
      exact absurd hinfix.length_le (by simp)
  | append_singleton fields field ih =>
      by_cases hfields : HasTightPair fields
      · obtain ⟨before, vector, scalar, after, rfl, htight, hfirst⟩ := ih hfields
        exact ⟨before, vector, scalar, after ++ [field], by simp, htight, hfirst⟩
      · obtain ⟨vector, scalar, hinfix, htight⟩ := h
        rcases List.infix_concat_iff.mp hinfix with hsuffix | hinfix
        · obtain ⟨before, hbefore⟩ := hsuffix
          have hsplit : fields = before ++ [vector] ∧ field = scalar := by
            rw [show before ++ [vector, scalar] = (before ++ [vector]) ++ [scalar] by simp]
              at hbefore
            simpa [eq_comm] using List.append_inj' hbefore rfl
          obtain ⟨rfl, rfl⟩ := hsplit
          exact ⟨before, vector, field, [], by simp, htight, hfields⟩
        · exact absurd ⟨vector, scalar, hinfix, htight⟩ hfields

/-! The ends of the fields under the two rule sets. -/

/-- How the ends under Metal and under WGSL lie to one another behind a field. -/
inductive Drift : Option Field → Nat → Nat → Prop
  | together {previous : Option Field} (stop : Nat)
    (h : ∀ field, previous = some field → field.type ≠ .float3) : Drift previous stop stop
  | behind {vector : Field} {stop : Nat} (hvector : vector.type = .float3) (hstop : 16 ∣ stop + 4) :
    Drift (some vector) (stop + 4) stop

/-- An alignment that leaves no gap behind a vector of three floats brings the ends together. -/
theorem Drift.alignUp_eq {previous : Option Field} {metal wgsl align : Nat}
    (h : Drift previous metal wgsl)
    (hgap : ∀ vector, previous = some vector → vector.type = .float3 → 8 ∣ align)
    (hsixteen : align ∣ 16) : alignUp metal align = alignUp wgsl align := by
  cases h with
  | together => rfl
  | @behind vector _ hvector hstop =>
      rw [alignUp_of_gap (hgap vector rfl hvector) hsixteen hstop]
      exact alignUp_of_dvd (Nat.pos_of_dvd_of_pos hsixteen (by decide))
        (Nat.dvd_trans hsixteen hstop)

theorem Drift.of_float3 {vector : Field} {metal wgsl : Nat} (h : Drift (some vector) metal wgsl)
    (hvector : vector.type = .float3) : metal = wgsl + 4 ∧ 16 ∣ metal := by
  cases h with
  | together _ hother => exact absurd hvector (hother vector rfl)
  | behind _ hstop => exact ⟨rfl, hstop⟩

theorem drift_of_place {metal wgsl : Nat} {field : Field}
    (h : alignUp metal field.type.align = alignUp wgsl field.type.align) :
    Drift (some field) (FieldLayout.place .metal metal field).stop
      (FieldLayout.place .wgsl wgsl field).stop := by
  simp only [FieldLayout.place, FieldLayout.stop, h]
  have hdvd := dvd_alignUp wgsl field.type.align
  by_cases htype : field.type = .float3
  · rw [htype] at hdvd ⊢
    change 16 ∣ alignUp wgsl 16 at hdvd
    have hstop : 16 ∣ alignUp wgsl 16 + 12 + 4 := by omega
    exact .behind htype hstop
  · rw [FieldType.size_eq_size htype]
    exact .together _ fun _ h => Option.some.inj h ▸ htype

/-- Without a pair all fields have one offset, and the ends drift apart behind a vector of three
floats only. -/
theorem observed_eq_and_drift {fields : List Field} (h : ¬HasTightPair fields) :
    (FieldLayout.placeAll .metal 0 fields).map FieldLayout.observed =
        (FieldLayout.placeAll .wgsl 0 fields).map FieldLayout.observed ∧
      Drift fields.getLast? (FieldLayout.stopAll .metal 0 fields)
        (FieldLayout.stopAll .wgsl 0 fields) := by
  induction fields using List.reverseRecOn with
  | nil => exact ⟨rfl, .together 0 nofun⟩
  | append_singleton fields field ih =>
      obtain ⟨hobserved, hdrift⟩ := ih (not_hasTightPair_of_append h)
      -- Only a scalar would not close the gap, and behind such a vector it would make a pair.
      have hgap : ∀ vector, fields.getLast? = some vector → vector.type = .float3 →
          8 ∣ field.type.align := by
        intro vector hlast hvector
        exact FieldType.eight_dvd_align fun hscalar =>
          not_tight_of_concat h hlast ⟨hvector, hscalar⟩
      have hoffset := hdrift.alignUp_eq hgap field.type.align_dvd_sixteen
      rw [FieldLayout.placeAll_append, FieldLayout.placeAll_append, FieldLayout.stopAll_append,
        FieldLayout.stopAll_append, List.map_append, List.map_append, hobserved,
        List.getLast?_concat]
      refine ⟨?_, drift_of_place hoffset⟩
      simp only [FieldLayout.placeAll, FieldLayout.place, List.map_cons, List.map_nil,
        FieldLayout.observed, hoffset]

end ShaderLayout
