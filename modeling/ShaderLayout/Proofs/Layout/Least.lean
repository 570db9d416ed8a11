import Mathlib.Data.List.Chain
import Mathlib.Order.Bounds.Defs
import ShaderLayout.Host.Contract
import ShaderLayout.Proofs.Layout.Placement

/-!
The layout of a block among all arrangements of its fields. Every field comes as
early as its alignment and the fields before it allow, and the block takes the
least room that suits its alignment. Its size is therefore a stride: elements of
an array stand one behind the other with all their fields aligned.
-/

namespace ShaderLayout

/-- Fields of a block in their order, of full size, each on its alignment and none before the end
of the one in front of it. -/
structure Block.Arranges (block : Block) (rules : LayoutRules) (placed : List FieldLayout) :
    Prop where
  fields : placed.map FieldLayout.field = block.fields
  sized : ∀ field ∈ placed, field.size = field.type.size rules
  aligned : ∀ field ∈ placed, field.type.align ∣ field.offset
  ordered : placed.IsChain fun first second => first.stop ≤ second.offset

/-- The fields of `count` blocks one behind the other, the first block at `start`. -/
def BlockLayout.elements (layout : BlockLayout) (start count : Nat) : List FieldLayout :=
  (List.range count).flatMap fun element =>
    layout.fields.map fun field =>
      { field with offset := start + element * layout.size + field.offset }

/-- Placing fields from a cursor on puts each of them as early as it can stand. -/
theorem FieldLayout.placeAll_le {rules : LayoutRules} {cursor : Nat} {placed : List FieldLayout}
    (hsized : ∀ field ∈ placed, field.size = field.type.size rules)
    (haligned : ∀ field ∈ placed, field.type.align ∣ field.offset)
    (hordered : placed.IsChain fun first second => first.stop ≤ second.offset)
    (hstart : ∀ first ∈ placed.head?, cursor ≤ first.offset) :
    List.Forall₂ (fun field other => field.offset ≤ other.offset)
      (placeAll rules cursor (placed.map field)) placed := by
  induction placed generalizing cursor with
  | nil => exact .nil
  | cons first rest ih =>
      obtain ⟨hnext, hrest⟩ := List.isChain_cons.mp hordered
      have hoffset : (place rules cursor first.field).offset ≤ first.offset :=
        alignUp_le first.type.align_pos (haligned first List.mem_cons_self) (hstart first rfl)
      have hstop : (place rules cursor first.field).stop ≤ first.stop := by
        rw [stop, stop, hsized first List.mem_cons_self]
        exact Nat.add_le_add_right hoffset _
      refine .cons hoffset (ih ?_ ?_ hrest ?_)
      · exact fun later hlater => hsized later (List.mem_cons_of_mem _ hlater)
      · exact fun later hlater => haligned later (List.mem_cons_of_mem _ hlater)
      -- What stands behind the field stands behind the earliest end it can have.
      · exact fun next hhead => Nat.le_trans hstop (hnext next hhead)

namespace Block

variable {block : Block} {rules : LayoutRules}

theorem arranges_layout (block : Block) (rules : LayoutRules) :
    block.Arranges rules (block.layout rules).fields where
  fields := FieldLayout.map_field_placeAll rules 0 block.fields
  sized := (block.placed_layout rules).sized
  aligned := (block.placed_layout rules).aligned
  ordered := (block.placed_layout rules).ordered.isChain

theorem Arranges.layout_le {placed : List FieldLayout} (h : block.Arranges rules placed) :
    List.Forall₂ (fun field other => field.offset ≤ other.offset) (block.layout rules).fields
      placed := by
  have hleast := FieldLayout.placeAll_le h.sized h.aligned h.ordered fun first _ =>
    Nat.zero_le first.offset
  rwa [h.fields] at hleast

theorem exists_align_eq (h : block.fields ≠ []) :
    ∃ field ∈ block.fields, field.type.align = block.align := by
  rw [align]
  generalize block.fields = fields at h ⊢
  induction fields with
  | nil => exact absurd rfl h
  | cons first fields ih =>
      simp only [List.foldr_cons]
      by_cases hfields : fields = []
      · refine ⟨first, List.mem_cons_self, ?_⟩
        rw [hfields, List.foldr_nil, Nat.max_eq_left first.type.align_pos]
      · obtain ⟨field, hfield, heq⟩ := ih hfields
        rw [← heq]
        rcases Nat.le_total field.type.align first.type.align with hle | hle
        · exact ⟨first, List.mem_cons_self, (Nat.max_eq_left hle).symm⟩
        · exact ⟨field, List.mem_cons_of_mem _ hfield, (Nat.max_eq_right hle).symm⟩

/-- The end of the last field is the end of all of them. -/
theorem stopAll_le {cursor bound : Nat} {fields : List Field} (hcursor : cursor ≤ bound)
    (h : ∀ field ∈ FieldLayout.placeAll rules cursor fields, field.stop ≤ bound) :
    FieldLayout.stopAll rules cursor fields ≤ bound := by
  induction fields generalizing cursor with
  | nil => exact hcursor
  | cons field fields ih =>
      obtain ⟨hfirst, hrest⟩ := List.forall_mem_cons.mp h
      exact ih hfirst hrest

theorem isLeast_size (block : Block) (rules : LayoutRules) :
    IsLeast {size | block.align ∣ size ∧ ∀ field ∈ (block.layout rules).fields, field.stop ≤ size}
      (block.layout rules).size := by
  refine ⟨⟨dvd_alignUp _ block.align, (block.placed_layout rules).within⟩, ?_⟩
  rintro size ⟨hdvd, hwithin⟩
  exact alignUp_le block.align_pos hdvd (stopAll_le (Nat.zero_le size) hwithin)

/-! ### Arrays of blocks -/

theorem aligned_of_mem_elements {start count : Nat} (hstart : block.align ∣ start)
    {field : FieldLayout} (h : field ∈ (block.layout rules).elements start count) :
    field.type.align ∣ field.offset := by
  obtain ⟨element, -, hfield⟩ := List.mem_flatMap.mp h
  obtain ⟨placed, hplaced, rfl⟩ := List.mem_map.mp hfield
  have hmem : placed.field ∈ block.fields :=
    (block.arranges_layout rules).fields ▸ List.mem_map_of_mem hplaced
  have helement : block.align ∣ start + element * (block.layout rules).size :=
    Nat.dvd_add hstart (Nat.dvd_mul_left_of_dvd (block.isLeast_size rules).1.1 element)
  exact Nat.dvd_add (Nat.dvd_trans (align_dvd hmem) helement)
    ((block.placed_layout rules).aligned placed hplaced)

end Block

/-- Fields of an element do not overlap, and each element ends before the next one starts. -/
theorem BlockLayout.Placed.pairwise_elements {layout : BlockLayout} (hlayout : layout.Placed)
    (start count : Nat) :
    (layout.elements start count).Pairwise fun first second => first.stop ≤ second.offset := by
  rw [elements, List.pairwise_flatMap]
  refine ⟨fun element _ => ?_, List.pairwise_lt_range.imp fun {first second} hlt => ?_⟩
  · rw [List.pairwise_map]
    refine hlayout.ordered.imp fun h => ?_
    simp only [FieldLayout.stop] at h ⊢
    omega
  · simp only [List.forall_mem_map]
    intro field hfield other _
    have hwithin := hlayout.within field hfield
    have hnext := layout.element_stop_le hlt
    simp only [FieldLayout.stop] at hwithin ⊢
    omega

/-- The layout of a block is the least one. Its offsets are the least among all arrangements of the
fields, its alignment is the largest of theirs, and its size is the least multiple of that alignment
behind all fields; so blocks may stand one behind the other from any aligned place on. -/
theorem Block.layout_is_least (block : Block) (rules : LayoutRules) :
    let layout := block.layout rules
    block.Arranges rules layout.fields ∧
    (∀ placed, block.Arranges rules placed →
      List.Forall₂ (fun field other => field.offset ≤ other.offset) layout.fields placed) ∧
    (block.fields = [] → layout.align = 1) ∧
    (block.fields ≠ [] →
      IsGreatest {align | ∃ field ∈ block.fields, field.type.align = align} layout.align) ∧
    (∀ field ∈ block.fields, field.type.align ∣ layout.align) ∧
    IsLeast {size | layout.align ∣ size ∧ ∀ field ∈ layout.fields, field.stop ≤ size} layout.size ∧
    ∀ start count, layout.align ∣ start →
      (∀ field ∈ layout.elements start count, field.type.align ∣ field.offset) ∧
      (layout.elements start count).Pairwise fun first second => first.stop ≤ second.offset := by
  refine ⟨block.arranges_layout rules, fun _ => Arranges.layout_le, ?_, ?_, ?_,
    block.isLeast_size rules, ?_⟩
  · intro hfields
    show block.align = 1
    rw [align, hfields, List.foldr_nil]
  · intro hfields
    refine ⟨exists_align_eq hfields, ?_⟩
    rintro _ ⟨field, hfield, rfl⟩
    exact le_align hfield
  · exact fun field hfield => align_dvd hfield
  · intro start count hstart
    exact ⟨fun _ => aligned_of_mem_elements hstart,
      (block.placed_layout rules).pairwise_elements start count⟩

/-- The handle for rotations: one of its fields could stand a word farther on, and two of its blocks
stand behind one another in an array. -/
theorem Block.circle_is_least :
    let circle := Host.circleUniforms
    let loose : List FieldLayout := [⟨"radius", .float, 0, 4⟩, ⟨"thickness", .float, 8, 4⟩,
      ⟨"color", .float3, 16, 12⟩, ⟨"center", .float2, 32, 8⟩]
    circle.Arranges .wgsl loose ∧
      List.Forall₂ (fun field other => field.offset ≤ other.offset) (circle.layout .wgsl).fields
        loose ∧
      circle.fields ≠ [] ∧
      IsGreatest {align | ∃ field ∈ circle.fields, field.type.align = align} 16 ∧
      (circle.layout .wgsl).size = 48 ∧ 16 ∣ 32 ∧
      ((circle.layout .wgsl).elements 32 2).map (·.offset) = [32, 36, 48, 64, 80, 84, 96, 112] ∧
      (∀ field ∈ (circle.layout .wgsl).elements 32 2, field.type.align ∣ field.offset) ∧
      ∃ empty : Block, empty.fields = [] ∧ (empty.layout .wgsl).align = 1 := by
  intro circle loose
  obtain ⟨-, hleast, -, hgreatest, -, -, helements⟩ := Block.layout_is_least circle .wgsl
  have hloose : circle.Arranges .wgsl loose := ⟨rfl, by decide, by decide, by decide⟩
  refine ⟨hloose, hleast loose hloose, by decide, hgreatest (by decide), by decide, by decide,
    by decide, (helements 32 2 (by decide)).1, ⟨"Empty", "", []⟩, rfl, ?_⟩
  exact (Block.layout_is_least ⟨"Empty", "", []⟩ .wgsl).2.2.1 rfl

end ShaderLayout
