import Mathlib.Data.List.Forall2
import Mathlib.Tactic.Tauto

/-!
Checks one after the other. They pass exactly when each of them does, and
otherwise fail as the first one that fails.
-/

namespace ShaderLayout

theorem bind_eq_ok_iff {α β ε : Type} {first : Except ε α} {next : α → Except ε β} {result : β} :
    first >>= next = .ok result ↔ ∃ value, first = .ok value ∧ next value = .ok result := by
  cases first with
  | error error => exact iff_of_false nofun fun ⟨_, h, _⟩ => nomatch h
  | ok value =>
      constructor
      · intro h
        exact ⟨value, rfl, h⟩
      · rintro ⟨_, hvalue, h⟩
        cases hvalue
        exact h

theorem bind_eq_error_iff {α β ε : Type} {first : Except ε α} {next : α → Except ε β}
    {error : ε} :
    first >>= next = .error error ↔
      first = .error error ∨ ∃ value, first = .ok value ∧ next value = .error error := by
  cases first with
  | error cause =>
      constructor
      · intro h
        exact .inl (congrArg Except.error (Except.error.inj h))
      · rintro (h | ⟨_, ⟨⟩, -⟩)
        exact congrArg Except.error (Except.error.inj h)
  | ok value =>
      constructor
      · intro h
        exact .inr ⟨value, rfl, h⟩
      · rintro (⟨⟨⟩⟩ | ⟨_, ⟨⟩, h⟩)
        exact h

/-- A condition that must not hold for the work to go on. -/
theorem guard_eq_ok_iff {α ε : Type} {condition : Prop} [Decidable condition] {error : ε}
    {rest : Except ε α} {result : α} :
    (if condition then (throw error : Except ε PUnit) >>= fun _ => rest else rest) = .ok result ↔
      ¬condition ∧ rest = .ok result := by
  by_cases h : condition
  · rw [if_pos h]
    exact iff_of_false nofun fun h' => h'.1 h
  · rw [if_neg h]
    exact (and_iff_right h).symm

theorem guard_eq_error_iff {α ε : Type} {condition : Prop} [Decidable condition]
    {error found : ε} {rest : Except ε α} :
    (if condition then (throw error : Except ε PUnit) >>= fun _ => rest else rest) =
        .error found ↔
      condition ∧ error = found ∨ ¬condition ∧ rest = .error found := by
  by_cases h : condition
  · rw [if_pos h]
    exact ⟨fun hfound => .inl ⟨h, Except.error.inj hfound⟩,
      fun hfound => congrArg Except.error (hfound.resolve_right fun h' => h'.1 h).2⟩
  · rw [if_neg h]
    exact ⟨fun hfound => .inr ⟨h, hfound⟩,
      fun hfound => (hfound.resolve_left fun h' => h h'.1).2⟩

@[simp] theorem mapError_eq_ok_iff {α ε ε' : Type} {result : Except ε α} {tell : ε → ε'}
    {value : α} :
    result.mapError tell = .ok value ↔ result = .ok value := by
  cases result <;> simp [Except.mapError]

theorem mapError_eq_error_iff {α ε ε' : Type} {result : Except ε α} {tell : ε → ε'} {error : ε'} :
    result.mapError tell = .error error ↔ ∃ cause, result = .error cause ∧ tell cause = error := by
  cases result <;> simp [Except.mapError]

variable {α ε : Type} {check : α → Except ε Unit} {items : List α}

theorem forM_eq_ok_iff : items.forM check = .ok () ↔ ∀ item ∈ items, check item = .ok () := by
  induction items with
  | nil => exact iff_of_true rfl nofun
  | cons item items ih =>
      show (check item >>= fun _ => items.forM check) = _ ↔ _
      rw [List.forall_mem_cons, ← ih]
      cases check item with
      | error error => exact iff_of_false nofun fun h => nomatch h.1
      | ok => exact (and_iff_right rfl).symm

theorem exists_of_forM_eq_error {error : ε} (h : items.forM check = .error error) :
    ∃ before item after, items = before ++ item :: after ∧
      (∀ other ∈ before, check other = .ok ()) ∧ check item = .error error := by
  induction items with
  | nil => cases h
  | cons item items ih =>
      change (check item >>= fun _ => items.forM check) = _ at h
      cases hitem : check item with
      | error cause =>
          rw [hitem] at h
          cases h
          exact ⟨[], item, items, rfl, nofun, hitem⟩
      | ok =>
          rw [hitem] at h
          obtain ⟨before, failing, after, rfl, hbefore, hfailing⟩ := ih h
          refine ⟨item :: before, failing, after, rfl, ?_, hfailing⟩
          exact List.forall_mem_cons.mpr ⟨hitem, hbefore⟩

/-- Checks of items against those before them pass when each item fits and any two are apart. -/
theorem scan_eq_ok_iff {scan : List α → List α → Except ε Unit} {fits : α → Prop}
    {apart : α → α → Prop} (hnil : ∀ earlier, scan earlier [] = .ok ())
    (hcons : ∀ earlier item items, scan earlier (item :: items) = .ok () ↔
      fits item ∧ (∀ other ∈ earlier, apart other item) ∧ scan (earlier ++ [item]) items = .ok ())
    {earlier : List α} :
    scan earlier items = .ok () ↔ (∀ item ∈ items, fits item) ∧ items.Pairwise apart ∧
      ∀ other ∈ earlier, ∀ item ∈ items, apart other item := by
  induction items generalizing earlier with
  | nil => exact iff_of_true (hnil earlier) ⟨nofun, .nil, nofun⟩
  | cons item items ih =>
      rw [hcons, ih, List.forall_mem_cons, List.pairwise_cons]
      simp only [List.mem_append, List.mem_singleton, or_imp, forall_and, forall_eq,
        List.forall_mem_cons]
      tauto

/-- Checks of items against those before them fail as the first item that fails. -/
theorem scan_eq_error_iff {scan : List α → List α → Except ε Unit}
    {step : List α → α → Except ε Unit} (hnil : ∀ earlier, scan earlier [] = .ok ())
    (hcons : ∀ earlier item items, scan earlier (item :: items) =
      step earlier item >>= fun _ => scan (earlier ++ [item]) items)
    {earlier : List α} {error : ε} :
    scan earlier items = .error error ↔ ∃ before item after, items = before ++ item :: after ∧
      scan earlier before = .ok () ∧ step (earlier ++ before) item = .error error := by
  induction items generalizing earlier with
  | nil =>
      rw [hnil]
      exact iff_of_false nofun fun ⟨before, _, _, hitems, _⟩ => by simp at hitems
  | cons first rest ih =>
      rw [hcons, bind_eq_error_iff]
      constructor
      · rintro (hfirst | ⟨_, hfirst, hrest⟩)
        · exact ⟨[], first, rest, rfl, hnil earlier, by rwa [List.append_nil]⟩
        · obtain ⟨before, item, after, rfl, hbefore, hitem⟩ := ih.mp hrest
          refine ⟨first :: before, item, after, rfl, ?_, by rwa [List.append_cons]⟩
          rw [hcons]
          exact bind_eq_ok_iff.mpr ⟨(), hfirst, hbefore⟩
      · rintro ⟨before, item, after, hitems, hbefore, hitem⟩
        cases before with
        | nil =>
            obtain ⟨rfl, rfl⟩ := List.cons.inj hitems
            exact .inl (by rwa [List.append_nil] at hitem)
        | cons other before =>
            obtain ⟨rfl, rfl⟩ := List.cons.inj hitems
            rw [hcons] at hbefore
            obtain ⟨_, hfirst, hbefore⟩ := bind_eq_ok_iff.mp hbefore
            refine .inr ⟨(), hfirst, ih.mpr ⟨before, item, after, rfl, hbefore, ?_⟩⟩
            rwa [List.append_assoc]

/-- Work on all items gives results when the work on each of them gives its own. -/
theorem mapM_eq_ok_iff {β : Type} {work : α → Except ε β} {results : List β} :
    items.mapM work = .ok results ↔
      List.Forall₂ (fun item result => work item = .ok result) items results := by
  induction items generalizing results with
  | nil =>
      rw [List.mapM_nil, List.forall₂_nil_left_iff]
      exact ⟨fun h => (Except.ok.inj h).symm, fun h => congrArg Except.ok h.symm⟩
  | cons item items ih =>
      rw [List.mapM_cons, bind_eq_ok_iff, List.forall₂_cons_left_iff]
      constructor
      · rintro ⟨first, hfirst, h⟩
        obtain ⟨rest, hrest, hresults⟩ := bind_eq_ok_iff.mp h
        exact ⟨first, rest, hfirst, ih.mp hrest, (Except.ok.inj hresults).symm⟩
      · rintro ⟨first, rest, hfirst, hrest, rfl⟩
        exact ⟨first, hfirst, bind_eq_ok_iff.mpr ⟨rest, ih.mpr hrest, rfl⟩⟩

theorem exists_of_mapM_eq_error {β : Type} {work : α → Except ε β} {error : ε}
    (h : items.mapM work = .error error) : ∃ item ∈ items, work item = .error error := by
  induction items with
  | nil =>
      rw [List.mapM_nil] at h
      cases h
  | cons item items ih =>
      rw [List.mapM_cons] at h
      rcases bind_eq_error_iff.mp h with hitem | ⟨_, -, h⟩
      · exact ⟨item, List.mem_cons_self, hitem⟩
      rcases bind_eq_error_iff.mp h with hitems | ⟨_, -, ⟨⟩⟩
      obtain ⟨other, hother, hwork⟩ := ih hitems
      exact ⟨other, List.mem_cons_of_mem item hother, hwork⟩

/-- Work that either fails or gives a known result. -/
theorem mapM_eq_ok_iff_map {β : Type} {work : α → Except ε β} {fits : α → Prop} {result : α → β}
    (h : ∀ item value, work item = .ok value ↔ fits item ∧ value = result item) {results : List β} :
    items.mapM work = .ok results ↔ (∀ item ∈ items, fits item) ∧ results = items.map result := by
  simp only [mapM_eq_ok_iff, h, List.forall₂_and_left]
  rw [← List.forall₂_eq_eq_eq, List.forall₂_map_right_iff]
  exact and_congr_right fun _ => ⟨List.Forall₂.flip, List.Forall₂.flip⟩

theorem mapM_eq_ok_of_forall {β : Type} {work : α → Except ε β} {result : α → β}
    (h : ∀ item ∈ items, work item = .ok (result item)) :
    items.mapM work = .ok (items.map result) := by
  rw [mapM_eq_ok_iff, List.forall₂_map_right_iff, List.forall₂_same]
  exact h

/-- Work that gives a related result for each item gives results for all of them. -/
theorem exists_mapM_eq_pure {m : Type → Type} [Monad m] [LawfulMonad m] {β γ : Type}
    {work : α → m β} {related : γ → β → Prop} {origins : List γ}
    (h : List.Forall₂ (fun origin item => ∃ result, work item = pure result ∧
      related origin result) origins items) :
    ∃ results, items.mapM work = pure results ∧ List.Forall₂ related origins results := by
  induction h with
  | nil => exact ⟨[], List.mapM_nil, .nil⟩
  | cons hitem _ ih =>
      obtain ⟨result, hresult, hrelated⟩ := hitem
      obtain ⟨results, hresults, hall⟩ := ih
      refine ⟨result :: results, ?_, .cons hrelated hall⟩
      rw [List.mapM_cons, hresult, pure_bind, hresults, pure_bind]

/-- Items related by what they are told apart by give one list. -/
theorem map_eq_map_of_forall₂ {β γ : Type} {tell : α → γ} {tell' : β → γ} {others : List β}
    (h : List.Forall₂ (fun item other => tell item = tell' other) items others) :
    items.map tell = others.map tell' := by
  rwa [← List.forall₂_eq_eq_eq, List.forall₂_map_left_iff, List.forall₂_map_right_iff]

/-- What items have for what they are related to, all of them have. -/
theorem forall_mem_of_forall₂ {β : Type} {related : α → β → Prop} {others : List β}
    (h : List.Forall₂ related items others) {motive : α → Prop}
    (himp : ∀ item other, related item other → motive item) : ∀ item ∈ items, motive item := by
  induction h with
  | nil => exact nofun
  | cons hitem _ ih => exact List.forall_mem_cons.mpr ⟨himp _ _ hitem, ih⟩

theorem exists_related_of_mem {β : Type} {related : α → β → Prop} {others : List β}
    (h : List.Forall₂ related items others) {item : α} (hitem : item ∈ items) :
    ∃ other ∈ others, related item other := by
  induction h with
  | nil => cases hitem
  | cons hrelated _ ih =>
      rcases List.mem_cons.mp hitem with rfl | hitem
      · exact ⟨_, List.mem_cons_self, hrelated⟩
      · obtain ⟨other, hother, hrelated⟩ := ih hitem
        exact ⟨other, List.mem_cons_of_mem _ hother, hrelated⟩

/-- Properties of related items hold of all of the ones when they hold of all of the others. -/
theorem forall_mem_iff_of_forall₂ {β : Type} {related : α → β → Prop} {others : List β}
    (h : List.Forall₂ related items others) {motive : α → Prop}
    {motive' : β → Prop} (hiff : ∀ item other, related item other → (motive item ↔ motive' other)) :
    (∀ item ∈ items, motive item) ↔ ∀ other ∈ others, motive' other := by
  induction h with
  | nil => exact iff_of_true nofun nofun
  | cons hitem _ ih => rw [List.forall_mem_cons, List.forall_mem_cons, hiff _ _ hitem, ih]

end ShaderLayout
