import Mathlib.Data.Finset.Max
import ShaderLayout.Proofs.Schema.WellFormed
import ShaderLayout.Schema.Numbering

/-!
The ranges that a numbering leaves out. They are found in one pass over the
numbers in order, with a pointer to the number behind the last one seen. Below
the largest number everything is in one of the ranges or in use, and each range
goes from one number in use, or from zero, to the next. So every gap is warned
about, and once only.
-/

namespace ShaderLayout

namespace NumberRange

instance : Membership UInt32 NumberRange where
  mem range number := range.start ≤ number ∧ number < range.stop

instance (number : UInt32) (range : NumberRange) : Decidable (number ∈ range) :=
  inferInstanceAs (Decidable (_ ∧ _))

theorem mem_iff {range : NumberRange} {number : UInt32} :
    number ∈ range ↔ range.start ≤ number ∧ number < range.stop :=
  Iff.rfl

end NumberRange

/-! ### The number behind another -/

theorem toNat_numberBehind (number : UInt32) :
    (numberBehind number).toNat = min (number.toNat + 1) (UInt32.size - 1) := by
  have hlt := number.toNat_lt_size
  rw [numberBehind]
  split
  · next hroom =>
      rw [UInt32.toNat_add, UInt32.toNat_one, Nat.mod_eq_of_lt hroom]
      omega
  · omega

/-- Only behind the largest number the pointer stays, and there is nothing to come. -/
theorem numberBehind_le_iff {number other bound : UInt32} (h : other < bound) :
    numberBehind number ≤ other ↔ number < other := by
  have hbound := bound.toNat_lt_size
  rw [UInt32.lt_iff_toNat_lt] at h
  rw [UInt32.le_iff_toNat_le, UInt32.lt_iff_toNat_lt, toNat_numberBehind]
  omega

theorem numberBehind_mono {number other : UInt32} (h : number ≤ other) :
    numberBehind number ≤ numberBehind other := by
  rw [UInt32.le_iff_toNat_le] at h ⊢
  rw [toNat_numberBehind, toNat_numberBehind]
  omega

/-! ### One pass over the numbers -/

section Pass

variable {next : UInt32} {indices : List UInt32}

/-- Each range starts where the pointer was, at the start or behind a number seen, and goes on to
the number met next. -/
theorem mem_unusedFrom_spec {range : NumberRange} (h : range ∈ unusedFrom next indices) :
    (range.start = next ∨ ∃ index ∈ indices, range.start = numberBehind index) ∧
      range.start < range.stop ∧ range.stop ∈ indices := by
  induction indices generalizing next with
  | nil => cases h
  | cons index rest ih =>
      have hlater (h : range ∈ unusedFrom (numberBehind index) rest) :
          (range.start = next ∨ ∃ other ∈ index :: rest, range.start = numberBehind other) ∧
            range.start < range.stop ∧ range.stop ∈ index :: rest := by
        obtain ⟨hstart, hlt, hstop⟩ := ih h
        refine ⟨.inr ?_, hlt, List.mem_cons_of_mem index hstop⟩
        rcases hstart with hstart | ⟨other, hother, hstart⟩
        · exact ⟨index, List.mem_cons_self, hstart⟩
        · exact ⟨other, List.mem_cons_of_mem index hother, hstart⟩
      rw [unusedFrom] at h
      split at h
      · next hgap =>
          rcases List.mem_cons.mp h with rfl | h
          · exact ⟨.inl rfl, hgap, List.mem_cons_self⟩
          · exact hlater h
      · exact hlater h

/-- The pointer is never further than behind the number to come. What the ranges hold is all from
the pointer on that is below some number to come and is none of them. -/
theorem mem_unusedFrom_iff (hsorted : indices.Pairwise (· ≤ ·))
    (hnext : ∀ index ∈ indices, next ≤ numberBehind index) {number : UInt32} :
    (∃ range ∈ unusedFrom next indices, number ∈ range) ↔
      next ≤ number ∧ (∃ index ∈ indices, number < index) ∧ number ∉ indices := by
  induction indices generalizing next with
  | nil => simp [unusedFrom]
  | cons index rest ih =>
      obtain ⟨hfirst, hsorted⟩ := List.pairwise_cons.mp hsorted
      have hindex := hnext index List.mem_cons_self
      have ih := ih hsorted fun other hother => numberBehind_mono (hfirst other hother)
      -- What is below the number at hand is below all to come.
      have hbelow (h : number < index) : number ∉ index :: rest := by
        rintro hmem
        rcases List.mem_cons.mp hmem with rfl | hmem
        · exact UInt32.lt_irrefl _ h
        · exact UInt32.lt_irrefl _ (UInt32.lt_of_lt_of_le h (hfirst _ hmem))
      have hlater : (∃ range ∈ unusedFrom (numberBehind index) rest, number ∈ range) ↔
          index < number ∧ next ≤ number ∧ (∃ other ∈ index :: rest, number < other) ∧
            number ∉ index :: rest := by
        rw [ih]
        constructor
        · rintro ⟨hbehind, ⟨other, hother, hlt⟩, hmem⟩
          have hgt := (numberBehind_le_iff hlt).mp hbehind
          refine ⟨hgt, UInt32.le_trans hindex hbehind, ⟨other, List.mem_cons_of_mem _ hother, hlt⟩,
            List.not_mem_cons_of_ne_of_not_mem ?_ hmem⟩
          exact (UInt32.ne_of_lt hgt).symm
        · rintro ⟨hgt, -, ⟨other, hother, hlt⟩, hmem⟩
          refine ⟨(numberBehind_le_iff hlt).mpr hgt, ⟨other, ?_, hlt⟩,
            List.not_mem_of_not_mem_cons hmem⟩
          exact (List.mem_cons.mp hother).resolve_left fun heq =>
            UInt32.lt_asymm hgt (heq ▸ hlt)
      have hne (h : number ∉ index :: rest) : index ≠ number :=
        fun heq => h (heq ▸ List.mem_cons_self)
      rw [unusedFrom]
      by_cases hgap : next < index
      · rw [if_pos hgap, List.exists_mem_cons_iff, hlater]
        constructor
        · rintro (⟨hle, hlt⟩ | ⟨-, h⟩)
          · exact ⟨hle, ⟨index, List.mem_cons_self, hlt⟩, hbelow hlt⟩
          · exact h
        · rintro ⟨hle, hexists, hmem⟩
          by_cases hlt : number < index
          · exact .inl ⟨hle, hlt⟩
          · have hgt := UInt32.lt_of_le_of_ne (UInt32.not_lt.mp hlt) (hne hmem)
            exact .inr ⟨hgt, hle, hexists, hmem⟩
      · rw [if_neg hgap, hlater]
        refine ⟨And.right, fun h => ⟨?_, h⟩⟩
        exact UInt32.lt_of_le_of_ne (UInt32.le_trans (UInt32.not_lt.mp hgap) h.1) (hne h.2.2)

/-- Behind each range there is the number that ended it. -/
theorem pairwise_unusedFrom (hsorted : indices.Pairwise (· ≤ ·)) :
    (unusedFrom next indices).Pairwise fun first second => first.stop < second.start := by
  induction indices generalizing next with
  | nil => exact .nil
  | cons index rest ih =>
      obtain ⟨hfirst, hsorted⟩ := List.pairwise_cons.mp hsorted
      rw [unusedFrom]
      split
      · refine List.pairwise_cons.mpr ⟨fun range hrange => ?_, ih hsorted⟩
        obtain ⟨hstart, hlt, -⟩ := mem_unusedFrom_spec hrange
        refine (numberBehind_le_iff hlt).mp ?_
        rcases hstart with hstart | ⟨other, hother, hstart⟩ <;> rw [hstart]
        · exact UInt32.le_refl _
        · exact numberBehind_mono (hfirst other hother)
      · exact ih hsorted

end Pass

/-! ### The ranges of a class -/

theorem pairwise_mergeSort_indices (indices : List UInt32) :
    indices.mergeSort.Pairwise (· ≤ ·) := by
  let le (first second : UInt32) : Bool := first ≤ second
  have htrans (first second third : UInt32) (h : le first second) (h' : le second third) :
      le first third :=
    decide_eq_true (UInt32.le_trans (of_decide_eq_true h) (of_decide_eq_true h'))
  have htotal (first second : UInt32) : (le first second || le second first) = true := by
    simpa [le] using UInt32.le_total first second
  have hsorted := List.pairwise_mergeSort htrans htotal indices
  exact hsorted.imp of_decide_eq_true

/-- A gap in the numbering of slots: it starts at zero or behind an index, and ends at the next. -/
structure IsGap (slots : List Slot) (range : NumberRange) : Prop where
  nonempty : range.start < range.stop
  front : range.start = 0 ∨ ∃ slot ∈ slots, slot.index.toNat + 1 = range.start.toNat
  stop : ∃ slot ∈ slots, slot.index = range.stop
  unused : ∀ slot ∈ slots, slot.index ∉ range

/-- Only which slots there are decides about gaps, and not their order. -/
theorem IsGap.congr {slots others : List Slot} (h : ∀ slot, slot ∈ slots ↔ slot ∈ others)
    {range : NumberRange} : IsGap slots range ↔ IsGap others range := by
  constructor
  · rintro ⟨hnonempty, hfront, hstop, hunused⟩
    simp only [h] at hfront hstop hunused
    exact ⟨hnonempty, hfront, hstop, hunused⟩
  · rintro ⟨hnonempty, hfront, hstop, hunused⟩
    simp only [← h] at hfront hstop hunused
    exact ⟨hnonempty, hfront, hstop, hunused⟩

/-- What the ranges are that a numbering leaves out. -/
structure LeftOut (slots : List Slot) (ranges : List NumberRange) : Prop where
  nonempty : ∀ range ∈ ranges, range.start < range.stop
  increasing : ranges.Pairwise fun first second =>
    first.start < second.start ∧ first.stop < second.stop
  /-- Between two of them there is an index in use. -/
  separated : ranges.Pairwise fun first second =>
    ∃ slot ∈ slots, first.stop ≤ slot.index ∧ slot.index < second.start
  /-- Together they hold the numbers below the largest index that are not in use. -/
  covers : ∀ number, (∃ range ∈ ranges, number ∈ range) ↔
    (∃ slot ∈ slots, number < slot.index) ∧ ∀ slot ∈ slots, slot.index ≠ number
  /-- There are none exactly where the indices are all numbers up to the largest. -/
  eq_nil_iff : ranges = [] ↔ slots = [] ∨
    ∃ largest, ∀ number, (∃ slot ∈ slots, slot.index = number) ↔ number ≤ largest
  gaps : ∀ range, range ∈ ranges ↔ IsGap slots range

section Ranges

variable {slots : List Slot} {range : NumberRange}

theorem mem_unusedRanges_spec (h : range ∈ unusedRanges slots) :
    (range.start = 0 ∨ ∃ slot ∈ slots, slot.index.toNat + 1 = range.start.toNat) ∧
      range.start < range.stop ∧ ∃ slot ∈ slots, slot.index = range.stop := by
  obtain ⟨hstart, hlt, hstop⟩ := mem_unusedFrom_spec h
  rw [List.mem_mergeSort, List.mem_map] at hstop
  refine ⟨hstart.imp_right ?_, hlt, hstop⟩
  rintro ⟨_, hindex, hstart⟩
  obtain ⟨slot, hslot, rfl⟩ := List.mem_map.mp (List.mem_mergeSort.mp hindex)
  refine ⟨slot, hslot, ?_⟩
  have hbound := range.stop.toNat_lt_size
  rw [UInt32.lt_iff_toNat_lt, hstart, toNat_numberBehind] at hlt
  rw [hstart, toNat_numberBehind]
  omega

theorem exists_mem_unusedRanges_iff {number : UInt32} :
    (∃ range ∈ unusedRanges slots, number ∈ range) ↔
      (∃ slot ∈ slots, number < slot.index) ∧ ∀ slot ∈ slots, slot.index ≠ number := by
  have hzero : ∀ index ∈ (slots.map (·.index)).mergeSort, 0 ≤ numberBehind index :=
    fun _ _ => UInt32.zero_le
  rw [unusedRanges, mem_unusedFrom_iff (pairwise_mergeSort_indices _) hzero,
    and_iff_right UInt32.zero_le]
  simp

theorem pairwise_unusedRanges (slots : List Slot) :
    (unusedRanges slots).Pairwise fun first second => first.stop < second.start :=
  pairwise_unusedFrom (pairwise_mergeSort_indices _)

theorem mem_unusedRanges_iff : range ∈ unusedRanges slots ↔ IsGap slots range := by
  have hunused {range : NumberRange} (h : range ∈ unusedRanges slots) :
      ∀ slot ∈ slots, slot.index ∉ range := fun slot hslot hmem =>
    (exists_mem_unusedRanges_iff.mp ⟨range, h, hmem⟩).2 slot hslot rfl
  constructor
  · intro h
    obtain ⟨hfront, hnonempty, hstop⟩ := mem_unusedRanges_spec h
    exact ⟨hnonempty, hfront, hstop, hunused h⟩
  · intro h
    obtain ⟨last, hlast, hstop⟩ := h.stop
    -- The range that holds its first number starts and ends where it does.
    obtain ⟨found, hfound, hmem⟩ := exists_mem_unusedRanges_iff.mpr
      ⟨⟨last, hlast, hstop ▸ h.nonempty⟩, fun slot hslot heq =>
        h.unused slot hslot (heq ▸ ⟨UInt32.le_refl _, h.nonempty⟩)⟩
    obtain ⟨-, -, other, hother, hfoundStop⟩ := mem_unusedRanges_spec hfound
    have hstops : found.stop = range.stop := by
      refine UInt32.le_antisymm (UInt32.not_lt.mp fun hlt => ?_) (UInt32.not_lt.mp fun hlt => ?_)
      · have hstart := UInt32.le_trans hmem.1 (UInt32.le_of_lt h.nonempty)
        exact hunused hfound last hlast (hstop ▸ ⟨hstart, hlt⟩)
      · exact h.unused other hother (hfoundStop ▸ ⟨UInt32.le_of_lt hmem.2, hlt⟩)
    have hstarts : found.start = range.start := by
      rcases h.front with hzero | ⟨slot, hslot, hindex⟩
      · rw [hzero]
        exact UInt32.le_antisymm (hzero ▸ hmem.1) UInt32.zero_le
      · refine UInt32.le_antisymm hmem.1 (UInt32.not_lt.mp fun hlt => ?_)
        have hstop := hmem.2
        refine hunused hfound slot hslot ⟨?_, ?_⟩
        · rw [UInt32.lt_iff_toNat_lt] at hlt
          rw [UInt32.le_iff_toNat_le]
          omega
        · rw [UInt32.lt_iff_toNat_lt] at hstop ⊢
          omega
    exact NumberRange.ext hstarts hstops ▸ hfound

theorem unusedRanges_eq_nil_iff : unusedRanges slots = [] ↔ slots = [] ∨
    ∃ largest, ∀ number, (∃ slot ∈ slots, slot.index = number) ↔ number ≤ largest := by
  have hcovers (number : UInt32) : (∃ range ∈ unusedRanges slots, number ∈ range) ↔
      (∃ slot ∈ slots, number < slot.index) ∧ ∀ slot ∈ slots, slot.index ≠ number :=
    exists_mem_unusedRanges_iff
  constructor
  · intro hnil
    by_cases hslots : slots = []
    · exact .inl hslots
    · obtain ⟨last, hlast, hle⟩ := slots.toFinset.exists_max_image (·.index.toNat)
        (List.toFinset_nonempty_iff slots |>.mpr hslots)
      refine .inr ⟨last.index, fun number => ⟨?_, fun hnumber => ?_⟩⟩
      · rintro ⟨slot, hslot, rfl⟩
        exact UInt32.le_iff_toNat_le.mpr (hle slot (List.mem_toFinset.mpr hslot))
      · -- Otherwise some range would hold the number.
        by_contra! hunused
        have hlt := UInt32.lt_of_le_of_ne hnumber (hunused last (List.mem_toFinset.mp hlast)).symm
        obtain ⟨range, hrange, -⟩ :=
          (hcovers number).mpr ⟨⟨last, List.mem_toFinset.mp hlast, hlt⟩, hunused⟩
        rw [hnil] at hrange
        cases hrange
  · intro h
    refine List.eq_nil_iff_forall_not_mem.mpr fun range hrange => ?_
    obtain ⟨-, hlt, last, hlast, hstop⟩ := mem_unusedRanges_spec hrange
    rcases h with rfl | ⟨largest, hlargest⟩
    · cases hlast
    · have hbelow : range.start ≤ largest :=
        UInt32.le_trans (UInt32.le_of_lt (hstop ▸ hlt)) ((hlargest _).mp ⟨last, hlast, rfl⟩)
      obtain ⟨slot, hslot, heq⟩ := (hlargest range.start).mpr hbelow
      exact ((hcovers range.start).mp ⟨range, hrange, UInt32.le_refl _, hlt⟩).2 slot hslot heq

theorem leftOut_unusedRanges (slots : List Slot) : LeftOut slots (unusedRanges slots) where
  nonempty range hrange := (mem_unusedRanges_spec hrange).2.1
  increasing := by
    refine (pairwise_unusedRanges slots).imp_of_mem fun hfirst hsecond hlt => ?_
    have hfirst := (mem_unusedRanges_spec hfirst).2.1
    have hsecond := (mem_unusedRanges_spec hsecond).2.1
    exact ⟨UInt32.lt_trans hfirst hlt, UInt32.lt_trans hlt hsecond⟩
  separated := by
    refine (pairwise_unusedRanges slots).imp_of_mem fun hfirst _ hlt => ?_
    obtain ⟨-, -, slot, hslot, hstop⟩ := mem_unusedRanges_spec hfirst
    exact ⟨slot, hslot, hstop ▸ UInt32.le_refl _, hstop ▸ hlt⟩
  covers number := exists_mem_unusedRanges_iff
  eq_nil_iff := unusedRanges_eq_nil_iff
  gaps range := mem_unusedRanges_iff

/-- Each gap is found once. -/
theorem nodup_unusedRanges (slots : List Slot) : (unusedRanges slots).Nodup := by
  rw [List.nodup_iff_pairwise_ne]
  refine (leftOut_unusedRanges slots).increasing.imp fun hlt heq => ?_
  exact UInt32.lt_irrefl _ (heq ▸ hlt.1)

end Ranges

/-! ### Warnings in words -/

theorem takeWhile_digits (n : Nat) {c : Char} (h : c.isDigit = false) (rest : List Char) :
    (Nat.toDigits 10 n ++ c :: rest).takeWhile Char.isDigit = Nat.toDigits 10 n := by
  rw [List.takeWhile_append_of_pos fun _ hc =>
    Nat.isDigit_of_mem_toDigits (by decide) (by decide) hc,
    List.takeWhile_cons_of_neg (by simp [h]), List.append_nil]

/-- A number with a mark behind it can be told from the text. -/
theorem toDigits_append_inj {first second : Nat} {c d : Char} {rest rest' : List Char}
    (hc : c.isDigit = false) (hd : d.isDigit = false)
    (h : Nat.toDigits 10 first ++ c :: rest = Nat.toDigits 10 second ++ d :: rest') :
    first = second ∧ c :: rest = d :: rest' := by
  have hdigits := congrArg (List.takeWhile Char.isDigit) h
  rw [takeWhile_digits first hc, takeWhile_digits second hd] at hdigits
  have hvalue := congrArg (Nat.ofDigitChars 10 · 0) hdigits
  simp only [Nat.ofDigitChars_ten_toDigits] at hvalue
  exact ⟨hvalue, List.append_cancel_left (hdigits ▸ h)⟩

namespace NumberRange

theorem toList_text (range : NumberRange) : range.text.toList =
    if range.length = 1 then "index ".toList ++ (Nat.toDigits 10 range.start.toNat ++ " is".toList)
    else "indices ".toList ++ (Nat.toDigits 10 range.start.toNat ++
      '.' :: '.' :: (Nat.toDigits 10 range.stop.toNat ++ " are".toList)) := by
  rw [text]
  split <;> simp [toString]

/-- The words tell the range, if it is not empty. -/
theorem text_injective {first second : NumberRange} (hfirst : first.start < first.stop)
    (hsecond : second.start < second.stop) (h : first.text = second.text) : first = second := by
  have hends (hstart : first.start.toNat = second.start.toNat)
      (hstop : first.stop.toNat = second.stop.toNat) : first = second :=
    NumberRange.ext (UInt32.toNat_inj.mp hstart) (UInt32.toNat_inj.mp hstop)
  have hlist := congrArg String.toList h
  rw [toList_text, toList_text] at hlist
  split at hlist <;> split at hlist
  · next hlength hlength' =>
      obtain ⟨hstart, -⟩ :=
        toDigits_append_inj (by decide) (by decide) (List.append_cancel_left hlist)
      rw [UInt32.lt_iff_toNat_lt] at hfirst hsecond
      rw [length] at hlength hlength'
      exact hends hstart (by omega)
  · simp at hlist
  · simp at hlist
  · obtain ⟨hstart, hrest⟩ :=
      toDigits_append_inj (by decide) (by decide) (List.append_cancel_left hlist)
    obtain ⟨hstop, -⟩ := toDigits_append_inj (by decide) (by decide)
      (List.cons.inj (List.cons.inj hrest).2).2
    exact hends hstart hstop

end NumberRange

theorem gapText_injective {bindingClass other : BindingClass} {first second : NumberRange}
    (hfirst : first.start < first.stop) (hsecond : second.start < second.stop)
    (h : gapText bindingClass first = gapText other second) :
    bindingClass = other ∧ first = second := by
  have htext (bindingClass : BindingClass) (range : NumberRange) :
      gapText bindingClass range =
        bindingClass.name ++ " " ++ range.text ++ " unused, numbering is not contiguous" := rfl
  have hclass : bindingClass = other := by
    have hlist := congrArg String.toList h
    revert hlist
    cases bindingClass <;> cases other <;> simp [htext, BindingClass.name]
  subst hclass
  rw [htext, htext, String.append_left_inj, String.append_right_inj] at h
  exact ⟨rfl, NumberRange.text_injective hfirst hsecond h⟩

/-! ### Warnings of a validation -/

def Notice.isWarning (notice : Notice) : Bool := notice.level = .warning

namespace Schema

variable {schema : Schema} {contract : Contract}

/-- The slots of a class and of all before it pass their checks. -/
def SettledUpTo (schema : Schema) (bindingClass : BindingClass) : Prop :=
  ∀ other : BindingClass, other.rank ≤ bindingClass.rank → schema.SlotsWellFormed other

theorem gapTexts_eq (classes : List BindingClass) :
    schema.gapTexts classes =
      (classes.takeWhile fun bindingClass => schema.SlotsWellFormed bindingClass).flatMap
        fun bindingClass =>
          (unusedRanges (schema.declaredIn bindingClass)).map (gapText bindingClass) := by
  induction classes with
  | nil => rfl
  | cons bindingClass rest ih =>
      rw [gapTexts]
      cases hslots : schema.slotsOf bindingClass with
      | ok slots =>
          obtain ⟨hwell, rfl⟩ := slotsOf_eq_ok_iff.mp hslots
          rw [List.takeWhile_cons, if_pos (decide_eq_true hwell), List.flatMap_cons, ← ih]
      | error error =>
          have hwell : ¬schema.SlotsWellFormed bindingClass := fun hwell => by
            rw [slotsOf_eq_ok_iff.mpr ⟨hwell, rfl⟩] at hslots
            cases hslots
          rw [List.takeWhile_cons, if_neg (by simpa using hwell), List.flatMap_nil]

theorem mem_takeWhile_all_iff {bindingClass : BindingClass} :
    bindingClass ∈ (BindingClass.all.takeWhile fun bindingClass =>
      schema.SlotsWellFormed bindingClass) ↔ schema.SettledUpTo bindingClass := by
  have hupTo : schema.SettledUpTo bindingClass ↔
      ∀ other ∈ BindingClass.all, other.rank ≤ bindingClass.rank → schema.SlotsWellFormed other :=
    ⟨fun h other _ => h other, fun h other => h other other.mem_all⟩
  rw [hupTo]
  by_cases hbuffer : schema.SlotsWellFormed .buffer <;>
    by_cases htexture : schema.SlotsWellFormed .texture <;>
      cases bindingClass <;>
        simp [BindingClass.all, BindingClass.rank, List.takeWhile_cons, hbuffer, htexture]

/-- The warnings among what a validation tells. -/
def warnings (schema : Schema) : List Notice := schema.notices.filter Notice.isWarning

/-- The warning about a gap. -/
def gapNotice (bindingClass : BindingClass) (range : NumberRange) : Notice :=
  ⟨.warning, .schema, gapText bindingClass range⟩

/-- Warnings are about gaps, class by class. -/
theorem warnings_eq (h : Name.isAccepted schema.name) :
    schema.warnings =
      (BindingClass.all.takeWhile fun bindingClass => schema.SlotsWellFormed bindingClass).flatMap
        fun bindingClass =>
          (unusedRanges (schema.declaredIn bindingClass)).map (gapNotice bindingClass) := by
  have hgaps (texts : List String) :
      (texts.map fun text => (⟨.warning, .schema, text⟩ : Notice)).filter Notice.isWarning =
        texts.map fun text => ⟨.warning, .schema, text⟩ :=
    List.filter_eq_self.mpr (List.forall_mem_map.mpr fun _ _ => rfl)
  have hshown : schema.warnings = (schema.gapTexts BindingClass.all).map fun text =>
      ⟨.warning, .schema, text⟩ := by
    rw [warnings, notices, checkName_eq_ok_iff.mpr h]
    show List.filter _ (_ ++ _) = _
    rw [List.filter_append, hgaps]
    cases schema.validate <;> exact List.append_nil _
  rw [hshown, gapTexts_eq, List.map_flatMap]
  simp only [List.map_map]
  rfl

theorem warnings_eq_nil (h : ¬Name.isAccepted schema.name) : schema.warnings = [] := by
  rw [warnings, notices]
  split
  · rfl
  · next hname => exact absurd (checkName_eq_ok_iff.mp hname) h

theorem mem_warnings_iff {notice : Notice} :
    notice ∈ schema.warnings ↔
      Name.isAccepted schema.name ∧ ∃ bindingClass range, schema.SettledUpTo bindingClass ∧
        IsGap (schema.declaredIn bindingClass) range ∧ notice = gapNotice bindingClass range := by
  by_cases hname : Name.isAccepted schema.name
  · rw [warnings_eq hname, and_iff_right hname, List.mem_flatMap]
    simp only [mem_takeWhile_all_iff, List.mem_map, mem_unusedRanges_iff]
    constructor
    · rintro ⟨bindingClass, hsettled, range, hgap, rfl⟩
      exact ⟨bindingClass, range, hsettled, hgap, rfl⟩
    · rintro ⟨bindingClass, range, hsettled, hgap, rfl⟩
      exact ⟨bindingClass, hsettled, range, hgap, rfl⟩
  · rw [warnings_eq_nil hname]
    exact iff_of_false nofun fun h => hname h.1

/-- No two gaps have the same warning. -/
theorem nodup_warnings (schema : Schema) : schema.warnings.Nodup := by
  by_cases hname : Name.isAccepted schema.name
  · have hclasses : (BindingClass.all.takeWhile fun bindingClass =>
        schema.SlotsWellFormed bindingClass).Pairwise (· ≠ ·) := by
      refine List.Pairwise.sublist (List.takeWhile_sublist _) ?_
      decide
    have hgap {bindingClass : BindingClass} {range : NumberRange}
        (h : range ∈ unusedRanges (schema.declaredIn bindingClass)) : range.start < range.stop :=
      (mem_unusedRanges_spec h).2.1
    rw [warnings_eq hname, List.nodup_flatMap]
    constructor
    · intro bindingClass _
      refine (nodup_unusedRanges _).map_on fun first hfirst second hsecond heq => ?_
      exact (gapText_injective (hgap hfirst) (hgap hsecond) (congrArg Notice.text heq)).2
    · refine hclasses.imp fun hne notice hnotice hnotice' => ?_
      obtain ⟨first, hfirst, rfl⟩ := List.mem_map.mp hnotice
      obtain ⟨second, hsecond, heq⟩ := List.mem_map.mp hnotice'
      exact hne.symm
        (gapText_injective (hgap hsecond) (hgap hfirst) (congrArg Notice.text heq)).1
  · rw [warnings_eq_nil hname]
    exact List.nodup_nil

theorem mem_slotsOf_iff (h : schema.Yields contract) {bindingClass : BindingClass} (slot : Slot) :
    slot ∈ contract.slotsOf bindingClass ↔ slot ∈ schema.declaredIn bindingClass := by
  rw [Contract.slotsOf, List.mem_filter, h.slots.mem_iff, declared, List.mem_flatMap,
    decide_eq_true_iff]
  constructor
  · rintro ⟨⟨other, -, hslot⟩, rfl⟩
    rwa [bindingClass_of_mem_declaredIn hslot]
  · intro hslot
    exact ⟨⟨bindingClass, bindingClass.mem_all, hslot⟩, bindingClass_of_mem_declaredIn hslot⟩

/-- The ranges found are the gaps of a numbering, whatever the order of the slots. A validation
warns about each gap of each class once, up to a class that is faulty, and about nothing else; so if
the schema is accepted, about each gap of the contract. -/
theorem gaps_are_told_once :
    (∀ slots : List Slot, LeftOut slots (unusedRanges slots) ∧ (unusedRanges slots).Nodup) ∧
    ∀ schema : Schema, schema.warnings.Nodup ∧
      (∀ notice, notice ∈ schema.warnings ↔
        Name.isAccepted schema.name ∧ ∃ bindingClass range, schema.SettledUpTo bindingClass ∧
          IsGap (schema.declaredIn bindingClass) range ∧
          notice = gapNotice bindingClass range) ∧
      ∀ contract, schema.validate = .ok contract → ∀ notice, notice ∈ schema.warnings ↔
        ∃ bindingClass range, IsGap (contract.slotsOf bindingClass) range ∧
          notice = gapNotice bindingClass range := by
  refine ⟨fun slots => ⟨leftOut_unusedRanges slots, nodup_unusedRanges slots⟩, fun schema =>
    ⟨nodup_warnings schema, fun notice => mem_warnings_iff, fun contract h notice => ?_⟩⟩
  obtain ⟨hwell, hyields⟩ := validate_eq_ok_iff.mp h
  have hsettled (bindingClass : BindingClass) : schema.SettledUpTo bindingClass :=
    fun other _ => hwell.slots other
  rw [mem_warnings_iff, and_iff_right hwell.name]
  simp only [hsettled, true_and, IsGap.congr (mem_slotsOf_iff hyields)]

/-- In no order, with an index used twice and the largest there is. -/
example : unusedRanges
    [⟨"shadows", .texture, 5, .resource⟩, ⟨"atlas", .texture, 1, .resource⟩,
      ⟨"sky", .texture, 4294967295, .resource⟩, ⟨"depth", .texture, 1, .resource⟩] =
    [⟨0, 1⟩, ⟨2, 5⟩, ⟨6, 4294967295⟩] := by
  cbv

/-- The buffers of the meshes have a gap before the last. -/
theorem meshes_gap_is_told :
    meshes.validate = .ok meshesContract ∧ gapNotice .buffer ⟨2, 5⟩ ∈ meshes.warnings := by
  obtain ⟨-, hwarnings⟩ := gaps_are_told_once
  obtain ⟨-, -, htold⟩ := hwarnings meshes
  refine ⟨validate_meshes, (htold meshesContract validate_meshes _).mpr ⟨.buffer, ⟨2, 5⟩, ?_, rfl⟩⟩
  exact ⟨by decide, .inr ⟨⟨"frame", .buffer, 1, .block⟩, by decide, rfl⟩,
    ⟨⟨"light_count", .buffer, 5, .scalar .uint⟩, by decide, rfl⟩, by decide⟩

end Schema

end ShaderLayout
