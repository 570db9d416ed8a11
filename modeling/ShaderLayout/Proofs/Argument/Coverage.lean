import Mathlib.Algebra.Ring.Nat
import Mathlib.Data.Set.Basic
import Mathlib.Order.Bounds.Defs
import ShaderLayout.Argument.Check
import ShaderLayout.Proofs.Checks

/-!
Which indices the items of an argument table take up. A table passes exactly
when each item is well formed on its own and no index of a class is taken up by
two of them, so that the order of the items does not matter. When two items
share indices, the error names the first item that runs into an earlier one, the
earliest that it runs into, and the least index that both take up.
-/

namespace ShaderLayout

/-- Not more than one item of a list has a property when of any two at least one lacks it. -/
theorem countP_le_one_iff {α : Type} {property : α → Bool} {items : List α} :
    items.countP property ≤ 1 ↔
      items.Pairwise fun first second => ¬(property first ∧ property second) := by
  induction items with
  | nil => exact iff_of_true (Nat.zero_le 1) .nil
  | cons item items ih =>
      rw [List.pairwise_cons, ← ih, List.countP_cons]
      by_cases hitem : property item
      · have hrest : items.countP property = 0 ↔ ∀ other ∈ items, ¬property other :=
          List.countP_eq_zero
        rw [if_pos hitem]
        simp only [hitem, true_and, ← hrest]
        omega
      · rw [if_neg hitem]
        simp [hitem]

namespace ArgumentItem

/-- An item is bound with its own class, is seen by some stage, and takes up at least one index and
none beyond the 32 bits. -/
structure WellFormed (item : ArgumentItem) : Prop where
  bindingClass : item.bindingClass = item.bound.bindingClass
  stages : item.stages ≠ ⟨0⟩
  count : 0 < item.count
  range : item.bound.index.toNat + item.count.toNat ≤ 2 ^ 32 - 1

/-- An item takes up an index of a class. -/
def Covers (item : ArgumentItem) (bindingClass : BindingClass) (index : UInt32) : Prop :=
  item.bindingClass = bindingClass ∧ item.bound.index ≤ index ∧
    index.toNat < item.bound.index.toNat + item.count.toNat

instance (item : ArgumentItem) (bindingClass : BindingClass) (index : UInt32) :
    Decidable (item.Covers bindingClass index) :=
  inferInstanceAs (Decidable (_ ∧ _))

/-- The indices of the second item's class that both items take up. -/
def shared (first second : ArgumentItem) : Set UInt32 :=
  {index | first.Covers second.bindingClass index ∧ second.Covers second.bindingClass index}

/-- Two items are of one class, and neither range ends before the other starts. -/
def Meets (first second : ArgumentItem) : Prop :=
  first.bindingClass = second.bindingClass ∧ first.overlaps second

variable {item first second : ArgumentItem} {earlier items : List ArgumentItem}
  {bindingClass : BindingClass} {index : UInt32} {error : ArgumentError}

/-! ### Indices of two items -/

theorem mem_shared_iff : index ∈ first.shared second ↔
    first.bindingClass = second.bindingClass ∧
      (first.bound.index ≤ index ∧ index.toNat < first.stop) ∧
      second.bound.index ≤ index ∧ index.toNat < second.stop :=
  ⟨fun ⟨⟨hclass, hfirst⟩, _, hsecond⟩ => ⟨hclass, hfirst, hsecond⟩,
    fun ⟨hclass, hfirst, hsecond⟩ => ⟨⟨hclass, hfirst⟩, rfl, hsecond⟩⟩

theorem shared_eq_empty_iff : first.shared second = ∅ ↔
    ∀ bindingClass index,
      ¬(first.Covers bindingClass index ∧ second.Covers bindingClass index) := by
  rw [Set.eq_empty_iff_forall_notMem]
  constructor
  · rintro h bindingClass index ⟨hfirst, hsecond⟩
    obtain rfl := hsecond.1
    exact h index ⟨hfirst, hsecond⟩
  · exact fun h index => h second.bindingClass index

/-- Items that meet share the later one of their first indices, and none before it. -/
theorem Meets.exists_isLeast_shared (h : first.Meets second) (hfirst : 0 < first.count)
    (hsecond : 0 < second.count) :
    ∃ index, IsLeast (first.shared second) index ∧
      index.toNat = max first.start second.start := by
  obtain ⟨hclass, hoverlaps⟩ := h
  rw [overlaps, Bool.and_eq_true, decide_eq_true_eq, decide_eq_true_eq] at hoverlaps
  obtain ⟨hbefore, hafter⟩ := hoverlaps
  have hinside {item : ArgumentItem} (hitem : 0 < item.count) : item.start < item.stop :=
    Nat.lt_add_of_pos_right (UInt32.lt_iff_toNat_lt.mp hitem)
  rcases UInt32.le_total first.bound.index second.bound.index with hle | hle
  · refine ⟨second.bound.index, ⟨?_, fun index hindex => (mem_shared_iff.mp hindex).2.2.1⟩,
      (Nat.max_eq_right (UInt32.le_iff_toNat_le.mp hle)).symm⟩
    exact mem_shared_iff.mpr ⟨hclass, ⟨hle, hafter⟩, UInt32.le_refl _, hinside hsecond⟩
  · refine ⟨first.bound.index, ⟨?_, fun index hindex => (mem_shared_iff.mp hindex).2.1.1⟩,
      (Nat.max_eq_left (UInt32.le_iff_toNat_le.mp hle)).symm⟩
    exact mem_shared_iff.mpr ⟨hclass, ⟨UInt32.le_refl _, hinside hfirst⟩, hle, hbefore⟩

theorem meets_of_mem_shared (h : index ∈ first.shared second) : first.Meets second := by
  obtain ⟨hclass, ⟨hstart, hstop⟩, hstart', hstop'⟩ := mem_shared_iff.mp h
  rw [UInt32.le_iff_toNat_le] at hstart hstart'
  refine ⟨hclass, ?_⟩
  rw [overlaps, Bool.and_eq_true, decide_eq_true_eq, decide_eq_true_eq]
  exact ⟨Nat.lt_of_le_of_lt hstart hstop', Nat.lt_of_le_of_lt hstart' hstop⟩

theorem not_meets_iff (hfirst : 0 < first.count) (hsecond : 0 < second.count) :
    ¬first.Meets second ↔ first.shared second = ∅ := by
  constructor
  · exact fun h => Set.eq_empty_of_forall_notMem fun _ hindex => h (meets_of_mem_shared hindex)
  · intro hempty hmeets
    obtain ⟨index, hleast, -⟩ := hmeets.exists_isLeast_shared hfirst hsecond
    exact (hempty ▸ hleast.1 : index ∈ (∅ : Set UInt32))

/-! ### The checks -/

theorem range?_isNone_iff : item.range?.isNone ↔ ¬item.stop ≤ 2 ^ 32 - 1 := by
  rw [range?]
  split
  · next h => exact iff_of_false nofun (not_not.mpr (Nat.le_pred_of_lt h))
  · next h => exact iff_of_true rfl fun hle => h (Nat.lt_of_le_pred (by decide) hle)

theorem check_eq_ok_iff : item.check = .ok () ↔ item.WellFormed := by
  have hstages : item.stages.isEmpty ↔ item.stages = ⟨0⟩ := by
    rw [Stages.isEmpty, beq_iff_eq]
    exact ⟨congrArg Stages.mk, congrArg Stages.bits⟩
  have hcount : item.count ≠ 0 ↔ 0 < item.count := UInt32.pos_iff_ne_zero.symm
  rw [check]
  simp only [guard_eq_ok_iff, not_not, hstages, ← ne_eq, hcount]
  constructor
  · rintro ⟨hclass, hstages, hcount, hrange⟩
    refine ⟨hclass, hstages, hcount, ?_⟩
    by_contra hbeyond
    rw [if_pos (range?_isNone_iff.mpr hbeyond)] at hrange
    cases hrange
  · rintro ⟨hclass, hstages, hcount, hrange⟩
    refine ⟨hclass, hstages, hcount, ?_⟩
    rw [if_neg (mt range?_isNone_iff.mp (not_not.mpr hrange))]
    rfl

/-- On its own an item shares nothing. -/
theorem check_ne_sharedIndex {index : Nat} {first second : String} :
    item.check ≠ .error (.sharedIndex bindingClass index first second) := by
  rw [check]
  simp only [ne_eq, guard_eq_error_iff]
  rintro (⟨-, ⟨⟩⟩ | ⟨-, ⟨-, ⟨⟩⟩ | ⟨-, ⟨-, ⟨⟩⟩ | ⟨-, h⟩⟩⟩)
  split at h <;> cases h

theorem found_iff :
    (first.bindingClass = second.bindingClass && first.overlaps second) = true ↔
      first.Meets second := by
  rw [Bool.and_eq_true, decide_eq_true_eq, Meets]

theorem checkAgainst_eq_ok_iff :
    item.checkAgainst earlier = .ok () ↔ ∀ other ∈ earlier, ¬other.Meets item := by
  rw [checkAgainst]
  split
  · next other hfind =>
      have hfound := List.find?_some hfind
      exact iff_of_false nofun fun h =>
        h other (List.mem_of_find?_eq_some hfind) (found_iff.mp hfound)
  · next hnone =>
      refine iff_of_true rfl fun other hother hmeets => ?_
      exact List.find?_eq_none.mp hnone other hother (found_iff.mpr hmeets)

/-- The check finds the earliest item that meets the new one. -/
theorem checkAgainst_eq_error_iff :
    item.checkAgainst earlier = .error error ↔ ∃ before other after,
      earlier = before ++ other :: after ∧ (∀ skipped ∈ before, ¬skipped.Meets item) ∧
        other.Meets item ∧ error =
          .sharedIndex item.bindingClass (max other.start item.start) other.name item.name := by
  have hmissed {skipped : ArgumentItem} :
      (!(skipped.bindingClass = item.bindingClass && skipped.overlaps item)) = true ↔
        ¬skipped.Meets item := by
    rw [Bool.not_eq_true', ← Bool.not_eq_true, found_iff]
  constructor
  · intro h
    rw [checkAgainst] at h
    split at h
    · next other hfind =>
        obtain ⟨hfound, before, after, hearlier, hbefore⟩ :=
          List.find?_eq_some_iff_append.mp hfind
        exact ⟨before, other, after, hearlier,
          fun skipped hskipped => hmissed.mp (hbefore skipped hskipped), found_iff.mp hfound,
          (Except.error.inj h).symm⟩
    · cases h
  · rintro ⟨before, other, after, hearlier, hbefore, hmeets, rfl⟩
    have hfind : earlier.find? (fun other =>
        other.bindingClass = item.bindingClass && other.overlaps item) = some other :=
      List.find?_eq_some_iff_append.mpr ⟨found_iff.mpr hmeets, before, after, hearlier,
        fun skipped hskipped => hmissed.mpr (hbefore skipped hskipped)⟩
    rw [checkAgainst, hfind]

/-! ### Tables -/

/-- Well-formed items do not meet exactly when none of their indices is taken up twice. -/
theorem pairwise_not_meets_iff (h : ∀ item ∈ items, item.WellFormed) :
    (items.Pairwise fun first second => ¬first.Meets second) ↔
      ∀ bindingClass index, items.countP (fun item => item.Covers bindingClass index) ≤ 1 := by
  have hshared : (items.Pairwise fun first second => ¬first.Meets second) ↔
      items.Pairwise fun first second => first.shared second = ∅ :=
    List.Pairwise.iff_of_mem fun hfirst hsecond =>
      not_meets_iff (h _ hfirst).count (h _ hsecond).count
  rw [hshared]
  simp only [countP_le_one_iff, decide_eq_true_eq, shared_eq_empty_iff,
    List.pairwise_iff_forall_sublist]
  exact ⟨fun hapart bindingClass index _ _ hsub => hapart hsub bindingClass index,
    fun hapart _ _ hsub bindingClass index => hapart bindingClass index hsub⟩

theorem checkAll_cons (earlier : List ArgumentItem) (item : ArgumentItem)
    (items : List ArgumentItem) :
    checkAll earlier (item :: items) =
      (item.check >>= fun _ => item.checkAgainst earlier) >>= fun _ =>
        checkAll (earlier ++ [item]) items := by
  rw [checkAll]
  cases item.check <;> rfl

theorem checkAll_cons_eq_ok_iff {earlier items : List ArgumentItem} {item : ArgumentItem} :
    checkAll earlier (item :: items) = .ok () ↔
      item.WellFormed ∧ (∀ other ∈ earlier, ¬other.Meets item) ∧
        checkAll (earlier ++ [item]) items = .ok () := by
  rw [checkAll_cons, bind_eq_ok_iff]
  constructor
  · rintro ⟨_, hfits, hrest⟩
    obtain ⟨_, hitem, hagainst⟩ := bind_eq_ok_iff.mp hfits
    exact ⟨check_eq_ok_iff.mp hitem, checkAgainst_eq_ok_iff.mp hagainst, hrest⟩
  · rintro ⟨hitem, hagainst, hrest⟩
    refine ⟨(), bind_eq_ok_iff.mpr ⟨(), check_eq_ok_iff.mpr hitem, ?_⟩, hrest⟩
    exact checkAgainst_eq_ok_iff.mpr hagainst

theorem checkArguments_eq_ok_iff : checkArguments items = .ok () ↔
    (∀ item ∈ items, item.WellFormed) ∧
      items.Pairwise fun first second => ¬first.Meets second := by
  rw [checkArguments, scan_eq_ok_iff (fun _ => rfl) fun _ _ _ => checkAll_cons_eq_ok_iff]
  exact and_congr_right fun _ => and_iff_left nofun

/-- The error of a check against well-formed items, said by the indices that they take up. -/
theorem checkAgainst_eq_sharedIndex_iff {index : Nat} {firstName secondName : String}
    (hitem : item.WellFormed) (hearlier : ∀ other ∈ earlier, other.WellFormed) :
    item.checkAgainst earlier =
        .error (.sharedIndex bindingClass index firstName secondName) ↔
      ∃ before other between, earlier = before ++ other :: between ∧
        (∀ skipped ∈ before, skipped.shared item = ∅) ∧
        (∃ least, IsLeast (other.shared item) least ∧ least.toNat = index) ∧
        bindingClass = item.bindingClass ∧ firstName = other.name ∧ secondName = item.name := by
  have hapart {other : ArgumentItem} (hother : other ∈ earlier) :
      ¬other.Meets item ↔ other.shared item = ∅ :=
    not_meets_iff (hearlier other hother).count hitem.count
  rw [checkAgainst_eq_error_iff]
  constructor
  · rintro ⟨before, other, between, rfl, hbefore, hmeets, herror⟩
    obtain ⟨least, hleast, hindex⟩ :=
      hmeets.exists_isLeast_shared (hearlier other (by simp)).count hitem.count
    obtain ⟨rfl, rfl, rfl, rfl⟩ := ArgumentError.sharedIndex.inj herror
    exact ⟨before, other, between, rfl,
      fun skipped hskipped => (hapart (List.mem_append_left _ hskipped)).mp
        (hbefore skipped hskipped), ⟨least, hleast, hindex⟩, rfl, rfl, rfl⟩
  · rintro ⟨before, other, between, rfl, hbefore, ⟨least, hleast, rfl⟩, rfl, rfl, rfl⟩
    have hmeets := meets_of_mem_shared hleast.1
    obtain ⟨index, hindex, hmax⟩ :=
      hmeets.exists_isLeast_shared (hearlier other (by simp)).count hitem.count
    have hsame : least = index := UInt32.le_antisymm (hleast.2 hindex.1) (hindex.2 hleast.1)
    refine ⟨before, other, between, rfl, fun skipped hskipped => ?_, hmeets, by rw [hsame, hmax]⟩
    exact (hapart (List.mem_append_left _ hskipped)).mpr (hbefore skipped hskipped)

/-- Only a check against earlier items reports a shared index, and those earlier items all pass. -/
theorem checkArguments_eq_sharedIndex_iff {index : Nat} {firstName secondName : String} :
    checkArguments items = .error (.sharedIndex bindingClass index firstName secondName) ↔
      ∃ passed item after, items = passed ++ item :: after ∧ checkArguments passed = .ok () ∧
        item.WellFormed ∧ item.checkAgainst passed =
          .error (.sharedIndex bindingClass index firstName secondName) := by
  rw [checkArguments, scan_eq_error_iff (fun _ => rfl) checkAll_cons]
  simp only [List.nil_append, bind_eq_error_iff, check_ne_sharedIndex, false_or]
  constructor
  · rintro ⟨passed, item, after, hitems, hpassed, _, hitem, hagainst⟩
    exact ⟨passed, item, after, hitems, hpassed, check_eq_ok_iff.mp hitem, hagainst⟩
  · rintro ⟨passed, item, after, hitems, hpassed, hitem, hagainst⟩
    exact ⟨passed, item, after, hitems, hpassed, (), check_eq_ok_iff.mpr hitem, hagainst⟩

end ArgumentItem

open ArgumentItem

/-- A table passes exactly when its items are well formed and no index is taken up twice, in
whatever order they stand. A shared index is reported at the first item that fails, with the
earliest item that it shares an index with and the least index that both take up. -/
theorem arguments_cover_once (items : List ArgumentItem) :
    (checkArguments items = .ok () ↔
      (∀ item ∈ items, item.WellFormed) ∧
        ∀ bindingClass index, items.countP (fun item => item.Covers bindingClass index) ≤ 1) ∧
    (∀ others, items.Perm others →
      (checkArguments items = .ok () ↔ checkArguments others = .ok ())) ∧
    ∀ bindingClass index first second,
      checkArguments items = .error (.sharedIndex bindingClass index first second) ↔
        ∃ before other between item after,
          items = before ++ other :: between ++ item :: after ∧
          checkArguments (before ++ other :: between) = .ok () ∧ item.WellFormed ∧
          (∀ skipped ∈ before, skipped.shared item = ∅) ∧
          (∃ least, IsLeast (other.shared item) least ∧ least.toNat = index) ∧
          bindingClass = item.bindingClass ∧ first = other.name ∧ second = item.name := by
  have hpasses (items : List ArgumentItem) : checkArguments items = .ok () ↔
      (∀ item ∈ items, item.WellFormed) ∧
        ∀ bindingClass index,
          items.countP (fun item => item.Covers bindingClass index) ≤ 1 := by
    rw [checkArguments_eq_ok_iff]
    exact and_congr_right pairwise_not_meets_iff
  refine ⟨hpasses items, fun others hperm => ?_, fun bindingClass index first second => ?_⟩
  · rw [hpasses items, hpasses others]
    simp only [hperm.mem_iff, hperm.countP_eq]
  rw [checkArguments_eq_sharedIndex_iff]
  constructor
  · rintro ⟨passed, item, after, rfl, hpassed, hitem, hagainst⟩
    obtain ⟨before, other, between, rfl, hreport⟩ :=
      (checkAgainst_eq_sharedIndex_iff hitem ((hpasses passed).mp hpassed).1).mp hagainst
    exact ⟨before, other, between, item, after, rfl, hpassed, hitem, hreport⟩
  · rintro ⟨before, other, between, item, after, rfl, hpassed, hitem, hreport⟩
    refine ⟨before ++ other :: between, item, after, rfl, hpassed, hitem, ?_⟩
    exact (checkAgainst_eq_sharedIndex_iff hitem ((hpasses _).mp hpassed).1).mpr
      ⟨before, other, between, rfl, hreport⟩

/-! ### Cascades beside an atlas -/

def cascades : ArgumentItem := ⟨"cascades", .texture, ⟨.texture, 0, "base_texture"⟩, .fragment, 4⟩

def atlas : ArgumentItem := ⟨"atlas", .texture, ⟨.texture, 4, "shadow_atlas"⟩, .fragment, 1⟩

/-- Textures from the last of the cascades on. -/
def probes : ArgumentItem := ⟨"probes", .texture, ⟨.texture, 3, "probe_texture"⟩, .fragment, 2⟩

/-- Cascades and atlas pass in either order. Probes share an index with both, and are reported with
the one that comes first. -/
theorem cascades_cover_once :
    checkArguments [cascades, atlas] = .ok () ∧ checkArguments [atlas, cascades] = .ok () ∧
      IsLeast (cascades.shared probes) 3 ∧
      checkArguments [cascades, atlas, probes] =
        .error (.sharedIndex .texture 3 "cascades" "probes") := by
  obtain ⟨-, hperm, -⟩ := arguments_cover_once [cascades, atlas]
  obtain ⟨-, -, hshared⟩ := arguments_cover_once [cascades, atlas, probes]
  have hpasses : checkArguments [cascades, atlas] = .ok () := by decide
  have hprobes : probes.WellFormed := ⟨by decide, by decide, by decide, by decide⟩
  have hleast : IsLeast (cascades.shared probes) 3 :=
    ⟨mem_shared_iff.mpr (by decide), fun _ hindex => (mem_shared_iff.mp hindex).2.2.1⟩
  refine ⟨hpasses, (hperm _ (List.Perm.swap atlas cascades [])).mp hpasses, hleast, ?_⟩
  exact (hshared _ _ _ _).mpr ⟨[], cascades, [atlas], probes, [], rfl, hpasses, hprobes, nofun,
    ⟨3, hleast, by decide⟩, rfl, rfl, rfl⟩

end ShaderLayout
