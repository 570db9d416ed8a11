import ShaderLayout.Proofs.Portability.Agreement
import ShaderLayout.Proofs.Portability.Drift

/-!
When a contract is portable between Metal and WGSL: exactly when no block of it
has a scalar right behind a vector of three floats. The first such scalar is the
difference that is told.
-/

namespace ShaderLayout

theorem Block.compare_eq_ok {block : Block} (h : ¬HasTightPair block.fields) :
    (block.layout .metal).compare (block.layout .wgsl).observed = .ok () := by
  obtain ⟨hobserved, hdrift⟩ := observed_eq_and_drift h
  refine BlockLayout.compare_eq_ok_iff.mpr ⟨hobserved.symm, ?_⟩
  apply Eq.symm
  apply hdrift.alignUp_eq _ block.align_dvd_sixteen
  intro vector hlast hvector
  have hdvd := align_dvd (List.mem_of_getLast? hlast)
  rw [hvector] at hdvd
  exact Nat.dvd_trans (by decide) hdvd

namespace FieldLayout

theorem placeAll_split (rules : LayoutRules) (before : List Field) (vector scalar : Field)
    (after : List Field) :
    placeAll rules 0 (before ++ vector :: scalar :: after) =
      placeAll rules 0 (before ++ [vector]) ++
        placeAll rules (stopAll rules 0 (before ++ [vector])) (scalar :: after) := by
  rw [← placeAll_append, List.append_assoc]
  rfl

theorem getElem?_placeAll_split (rules : LayoutRules) (before : List Field) (vector scalar : Field)
    (after : List Field) :
    (placeAll rules 0 (before ++ vector :: scalar :: after))[before.length + 1]? =
      some (place rules (stopAll rules 0 (before ++ [vector])) scalar) := by
  rw [placeAll_split, List.getElem?_append_right (by simp)]
  simp [placeAll]

theorem place_offset_of_scalar (rules : LayoutRules) {scalar : Field} {cursor : Nat}
    (hscalar : scalar.type.IsScalar) (h : 4 ∣ cursor) :
    (place rules cursor scalar).offset = cursor := by
  simp only [place, hscalar.align_eq]
  exact alignUp_of_dvd (by decide) h

end FieldLayout

/-- The difference that the first scalar behind a vector of three floats makes. -/
theorem Block.compare_eq_error {block : Block} {before after : List Field} {vector scalar : Field}
    (hfields : block.fields = before ++ vector :: scalar :: after) (htight : vector.Tight scalar)
    (hfirst : ¬HasTightPair (before ++ [vector])) :
    ∃ offset,
      ((block.layout .metal).fields[before.length + 1]?).map (·.offset) = some (offset + 4) ∧
      ((block.layout .wgsl).fields[before.length + 1]?).map (·.offset) = some offset ∧
      (block.layout .metal).compare (block.layout .wgsl).observed =
        .error (.offset block.name scalar.name (offset + 4) offset) := by
  -- Up to the vector there is no difference; behind it both cursors stand where the scalar goes.
  obtain ⟨hobserved, hdrift⟩ := observed_eq_and_drift hfirst
  rw [List.getLast?_concat] at hdrift
  obtain ⟨hmetal, hstop⟩ := hdrift.of_float3 htight.1
  have hexpected := FieldLayout.place_offset_of_scalar .metal htight.2
    (Nat.dvd_trans (by decide : 4 ∣ 16) hstop)
  have hfound := FieldLayout.place_offset_of_scalar .wgsl htight.2
    (by omega : 4 ∣ FieldLayout.stopAll .wgsl 0 (before ++ [vector]))
  have hsplit (rules : LayoutRules) : (block.layout rules).fields = _ :=
    hfields ▸ FieldLayout.placeAll_split rules before vector scalar after
  have hcompare := BlockLayout.compare_eq_offset (hsplit .metal) (hsplit .wgsl) hobserved.symm
    (by rw [FieldLayout.length_placeAll, FieldLayout.length_placeAll]) rfl
    (by rw [hexpected, hfound]; omega)
  rw [hexpected, hfound, hmetal] at hcompare
  refine ⟨FieldLayout.stopAll .wgsl 0 (before ++ [vector]), ?_, ?_, hcompare⟩
  · simp only [layout, hfields, FieldLayout.getElem?_placeAll_split, Option.map_some]
    rw [hexpected, hmetal]
  · simp only [layout, hfields, FieldLayout.getElem?_placeAll_split, Option.map_some]
    rw [hfound]

theorem comparePortable_eq_ok_iff {block : Block} :
    Contract.comparePortable block .metal .wgsl = .ok () ↔ ¬HasTightPair block.fields := by
  rw [Contract.comparePortable_eq_ok]
  constructor
  · intro h htight
    obtain ⟨before, vector, scalar, after, hfields, hpair, hfirst⟩ := exists_first_tight htight
    obtain ⟨offset, -, -, hcompare⟩ := Block.compare_eq_error hfields hpair hfirst
    rw [hcompare] at h
    cases h
  · exact Block.compare_eq_ok

theorem checkPortability_eq_forM (contract : Contract) :
    contract.checkPortability [.metal, .wgsl] =
      contract.blocks.forM fun block => Contract.comparePortable block .metal .wgsl := by
  rw [Contract.checkPortability]
  congr
  funext block
  show Contract.comparePortable block .metal .wgsl >>= _ = _
  cases Contract.comparePortable block .metal .wgsl <;> rfl

/-- A contract is portable between Metal and WGSL exactly when no scalar stands right behind a
vector of three floats. Otherwise the first such scalar, in the first block that has one, is told,
four bytes further on under Metal than under WGSL. -/
theorem Contract.portable_iff_no_tight_pair (contract : Contract) :
    (contract.checkPortability [.metal, .wgsl] = .ok () ↔
      ∀ block ∈ contract.blocks, ¬HasTightPair block.fields) ∧
    ∀ error, contract.checkPortability [.metal, .wgsl] = .error error →
      ∃ earlier block later before vector scalar after offset,
        contract.blocks = earlier ++ block :: later ∧
        (∀ other ∈ earlier, ¬HasTightPair other.fields) ∧
        block.fields = before ++ vector :: scalar :: after ∧
        vector.Tight scalar ∧ ¬HasTightPair (before ++ [vector]) ∧
        ((block.layout .metal).fields[before.length + 1]?).map (·.offset) = some (offset + 4) ∧
        ((block.layout .wgsl).fields[before.length + 1]?).map (·.offset) = some offset ∧
        error = .mismatch "metal rules vs wgsl rules"
          (.offset block.name scalar.name (offset + 4) offset) := by
  rw [checkPortability_eq_forM]
  constructor
  · rw [forM_eq_ok_iff]
    exact forall₂_congr fun _ _ => comparePortable_eq_ok_iff
  · intro error h
    obtain ⟨earlier, block, later, hblocks, hearlier, hblock⟩ := exists_of_forM_eq_error h
    have htight : HasTightPair block.fields := by
      by_contra hnone
      rw [comparePortable_eq_ok_iff.mpr hnone] at hblock
      cases hblock
    obtain ⟨before, vector, scalar, after, hfields, hpair, hfirst⟩ := exists_first_tight htight
    obtain ⟨offset, hmetal, hwgsl, hcompare⟩ := Block.compare_eq_error hfields hpair hfirst
    refine ⟨earlier, block, later, before, vector, scalar, after, offset, hblocks, ?_, hfields,
      hpair, hfirst, hmetal, hwgsl, ?_⟩
    · intro other hother
      exact comparePortable_eq_ok_iff.mp (hearlier other hother)
    · rw [Contract.comparePortable, hcompare] at hblock
      exact (Except.error.inj hblock).symm

/-- A light with its intensity right behind its direction. -/
def Contract.lights : Contract where
  name := "Lights"
  hostRules := .metal
  slots := []
  blocks := [⟨"Light", "lights", [⟨"direction", .float3⟩, ⟨"intensity", .float⟩]⟩]
  vertexInputs := []

theorem Contract.lights_not_portable :
    lights.checkPortability [.metal, .wgsl] =
        .error (.mismatch "metal rules vs wgsl rules" (.offset "Light" "intensity" 16 12)) ∧
      ∃ block ∈ lights.blocks, HasTightPair block.fields := by
  have htold : lights.checkPortability [.metal, .wgsl] =
      .error (.mismatch "metal rules vs wgsl rules" (.offset "Light" "intensity" 16 12)) := rfl
  obtain ⟨_, block, _, before, vector, scalar, after, _, hblocks, -, hfields, htight, -⟩ :=
    lights.portable_iff_no_tight_pair.2 _ htold
  refine ⟨htold, block, ?_, vector, scalar, ⟨before, after, ?_⟩, htight⟩
  · rw [hblocks]
    exact List.mem_append_right _ List.mem_cons_self
  · rw [hfields, List.append_assoc]
    rfl

end ShaderLayout
