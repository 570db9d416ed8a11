import ShaderLayout.Bindings.Member
import ShaderLayout.Proofs.Host.Value
import ShaderLayout.Proofs.Portability.Interchange

/-!
Images of host structures. Members stand one behind the other without any gap,
and the padding among them brings each field to the offset of the layout; so the
image of a structure is as large as the block, and every field is read from it.
-/

namespace ShaderLayout

namespace Bindings

variable {size cursor stop : Nat} {fields : List FieldLayout} {members : List Member}

/-- From values of the types of the fields, members make bytes from `cursor` up to `size`; behind
bytes up to `cursor`, every field reads its value. -/
def Carries (size cursor : Nat) (fields : List FieldLayout) (members : List Member) : Prop :=
  ∀ values, List.Forall₂ (fun field value => value.type = field.type) fields values →
    cursor + (image members values).length = size ∧
    ∀ before, before.length = cursor →
      List.Forall₂ (fun field value => field.readFrom (before ++ image members values) = value)
        fields values

theorem Carries.nil (size : Nat) : Carries size size [] [] := by
  intro values hvalues
  cases hvalues
  exact ⟨rfl, fun _ _ => .nil⟩

theorem Carries.field {field : FieldLayout} {name : String}
    (h : Carries size (field.offset + field.type.hostSize) fields members) :
    Carries size field.offset (field :: fields) (.field name field.type :: members) := by
  intro values hvalues
  cases hvalues with
  | @cons _ value _ values htype hvalues =>
      obtain ⟨hlength, hreads⟩ := h values hvalues
      rw [image, List.length_append, value.length_hostBytes, htype, ← Nat.add_assoc]
      refine ⟨hlength, fun before hbefore => ?_⟩
      refine .cons (FieldLayout.readFrom_hostBytes htype hbefore _) ?_
      rw [← List.append_assoc]
      apply hreads
      rw [List.length_append, value.length_hostBytes, hbefore, htype]

theorem Carries.gap (h : Carries size stop fields members) (hcursor : cursor ≤ stop)
    (hwords : 4 ∣ stop - cursor) (number : Nat) :
    Carries size cursor fields (.gap number (stop - cursor) :: members) := by
  intro values hvalues
  obtain ⟨hlength, hreads⟩ := h values hvalues
  rw [Member.gap, image, Nat.mul_div_cancel' hwords, List.length_append, List.length_replicate]
  refine ⟨by omega, fun before hbefore => ?_⟩
  rw [← List.append_assoc]
  apply hreads
  rw [List.length_append, List.length_replicate]
  omega

/-- Fields that host values fit into one behind the other, from `cursor` on within `size` bytes. -/
inductive Stacked (size : Nat) : Nat → List FieldLayout → Prop
  | nil {cursor : Nat} (h : cursor ≤ size) : Stacked size cursor []
  | cons {cursor : Nat} {field : FieldLayout} {fields : List FieldLayout}
    (hcursor : cursor ≤ field.offset) (hwords : 4 ∣ field.offset)
    (hrest : Stacked size (field.offset + field.type.hostSize) fields) :
    Stacked size cursor (field :: fields)

theorem exists_members (h : Stacked size cursor fields) (hcursor : 4 ∣ cursor) (hsize : 4 ∣ size)
    (pads : Nat) :
    ∃ members, Member.placeFrom size pads cursor
        (fields.map fun field => ⟨field.name, field.type, field.offset⟩) = .ok members ∧
      Carries size cursor fields members := by
  induction h generalizing pads with
  | @nil cursor hstop =>
      rw [List.map_nil, Member.placeFrom, if_neg (Nat.not_lt.mpr hstop)]
      split
      · exact ⟨_, rfl, (Carries.nil size).gap hstop (Nat.dvd_sub hsize hcursor) pads⟩
      · next hlt =>
          have heq : cursor = size := by omega
          exact ⟨[], rfl, heq ▸ Carries.nil size⟩
  | @cons cursor field fields hoffset hwords _ ih =>
      have hstop := Nat.dvd_add hwords field.type.four_dvd_hostSize
      rw [List.map_cons, Member.placeFrom]
      simp only [if_neg (Nat.not_lt.mpr hoffset)]
      by_cases hlt : cursor < field.offset
      -- The field starts where the last one ends, or a gap brings the cursor there first.
      · obtain ⟨members, hmembers, hcarries⟩ := ih hstop (pads + 1)
        simp only [if_pos hlt, hmembers]
        exact ⟨_, rfl, hcarries.field.gap hoffset (Nat.dvd_sub hwords hcursor) pads⟩
      · obtain ⟨members, hmembers, hcarries⟩ := ih hstop pads
        have heq : cursor = field.offset := by omega
        simp only [if_neg hlt, hmembers]
        exact ⟨_, rfl, heq ▸ hcarries.field⟩

theorem stacked_of_pairwise
    (hordered : fields.Pairwise fun first second => first.stop ≤ second.offset)
    (hfields : ∀ field ∈ fields, 4 ∣ field.offset ∧ field.type.hostSize ≤ field.size ∧
      field.stop ≤ size)
    (hcursor : ∀ field ∈ fields, cursor ≤ field.offset) (hsize : cursor ≤ size) :
    Stacked size cursor fields := by
  induction fields generalizing cursor with
  | nil => exact .nil hsize
  | cons field fields ih =>
      obtain ⟨hlater, hordered⟩ := List.pairwise_cons.mp hordered
      obtain ⟨⟨hwords, hhost, hstop⟩, hfields⟩ := List.forall_mem_cons.mp hfields
      have hwithin : field.offset + field.type.hostSize ≤ field.stop := Nat.add_le_add_left hhost _
      refine .cons (hcursor field List.mem_cons_self) hwords (ih hordered hfields ?_ ?_)
      · intro later hmem
        exact Nat.le_trans hwithin (hlater later hmem)
      · exact Nat.le_trans hwithin hstop

end Bindings

theorem BlockLayout.Placed.stacked {layout : BlockLayout} (hlayout : layout.Placed) :
    Bindings.Stacked layout.size 0 layout.fields := by
  apply Bindings.stacked_of_pairwise hlayout.ordered
  · intro field hfield
    have hwords := Nat.dvd_trans field.type.four_dvd_align (hlayout.aligned field hfield)
    exact ⟨hwords, hlayout.hostSize_le hfield, hlayout.within field hfield⟩
  · exact fun _ _ => Nat.zero_le _
  · exact Nat.zero_le _

theorem BlockLayout.Placed.exists_blockMembers {layout : BlockLayout} (hlayout : layout.Placed) :
    ∃ members, Bindings.blockMembers layout = .ok members ∧
      Bindings.Carries layout.size 0 layout.fields members :=
  Bindings.exists_members hlayout.stacked (Nat.dvd_zero 4) hlayout.words 0

/-! The images of blocks. -/

theorem Block.forall₂_layout {relation : Field → FieldValue → Prop} (block : Block)
    (rules : LayoutRules) {values : List FieldValue} :
    List.Forall₂ (fun placed value => relation placed.field value) (block.layout rules).fields
        values ↔ List.Forall₂ relation block.fields values := by
  rw [← List.forall₂_map_left_iff]
  exact iff_of_eq (congrArg (List.Forall₂ relation · values)
    (FieldLayout.map_field_placeAll rules 0 block.fields))

theorem Bindings.Carries.readField {layout : BlockLayout} {members : List Member}
    {values : List FieldValue} (h : Carries layout.size 0 layout.fields members)
    (hnames : (layout.fields.map (·.name)).Nodup)
    (hvalues : List.Forall₂ (fun field value => value.type = field.type) layout.fields values) :
    (image members values).length = layout.size ∧
      List.Forall₂ (fun field value =>
        layout.readField (image members values) field.name = .ok value) layout.fields values := by
  obtain ⟨hlength, hreads⟩ := h values hvalues
  rw [Nat.zero_add] at hlength
  refine ⟨hlength, ?_⟩
  have hreads := hreads [] rfl
  rw [List.nil_append, List.forall₂_iff_zip] at hreads
  rw [List.forall₂_iff_zip]
  refine ⟨hreads.1, fun {field value} hpair => ?_⟩
  have hfield := BlockLayout.field?_of_mem hnames (List.of_mem_zip hpair).1
  have hlocate := BlockLayout.locate_eq_ok_iff.mpr ⟨Nat.le_of_eq hlength.symm, hfield⟩
  rw [BlockLayout.readField_eq, hlocate, Except.map, hreads.2 hpair]

namespace Block

/-- Values for all fields of the block in order, each of the type of its field. -/
def Fits (block : Block) (values : List FieldValue) : Prop :=
  List.Forall₂ (fun field value => value.type = field.type) block.fields values

/-- Each field of the block is read from the bytes under its name, and has its value. -/
def Holds (block : Block) (rules : LayoutRules) (bytes : List UInt8) (values : List FieldValue) :
    Prop :=
  List.Forall₂ (fun field value => (block.layout rules).readField bytes field.name = .ok value)
    block.fields values

theorem AgreesUnder.holds {block : Block} {first second : LayoutRules}
    (h : block.AgreesUnder first second) {bytes : List UInt8} {values : List FieldValue}
    (hholds : block.Holds first bytes values) : block.Holds second bytes values := by
  refine hholds.imp fun field value hread => ?_
  rw [← h.readField_eq]
  exact hread

end Block

/-- For each block of a contract there are members of a host structure. Whatever values they take,
the image is as large as the block and all values are read from it under the rules of the host, and
under all rules if the contract is portable between Metal and WGSL. -/
theorem Schema.host_values_are_read (schema : Schema) (contract : Contract) (block : Block)
    (hvalid : schema.validate = .ok contract) (hblock : block ∈ contract.blocks) :
    ∃ members, Bindings.blockMembers (block.layout contract.hostRules) = .ok members ∧
      ∀ values, block.Fits values →
        (Bindings.image members values).length = (block.layout contract.hostRules).size ∧
        block.Holds contract.hostRules (Bindings.image members values) values ∧
        (contract.checkPortability [.metal, .wgsl] = .ok () →
          ∀ rules, block.Holds rules (Bindings.image members values) values) := by
  obtain ⟨members, hmembers, hcarries⟩ :=
    (block.placed_layout contract.hostRules).exists_blockMembers
  refine ⟨members, hmembers, fun values hvalues => ?_⟩
  have hnames := schema.nodup_of_validate hvalid hblock
  rw [← block.map_name_layout contract.hostRules] at hnames
  obtain ⟨hlength, hreads⟩ :=
    hcarries.readField hnames ((block.forall₂_layout contract.hostRules).mpr hvalues)
  have hhost : block.Holds contract.hostRules (Bindings.image members values) values :=
    (block.forall₂_layout contract.hostRules).mp hreads
  refine ⟨hlength, hhost, fun hportable rules => ?_⟩
  have hagrees := (contract.checkPortability_eq_ok_iff _).mp hportable block hblock
  have hall (rules : LayoutRules) : rules ∈ [LayoutRules.metal, .wgsl] := by cases rules <;> decide
  exact (hagrees contract.hostRules (hall contract.hostRules) rules (hall rules)).holds hhost

/-- Values of a surface, a quiet NaN with a payload among them. -/
def Block.surfaceValues : List FieldValue :=
  [⟨.float, [0x7fc00001], rfl⟩, ⟨.float3, [1, 2, 3], rfl⟩,
    ⟨.float3x3, [4, 5, 6, 7, 8, 9, 10, 11, 12], rfl⟩, ⟨.float2, [13, 14], rfl⟩]

theorem Schema.surface_values_are_read :
    surfaces.validate = .ok surfacesContract ∧ Block.surface ∈ surfacesContract.blocks ∧
      ∃ members, Bindings.blockMembers (Block.surface.layout .metal) = .ok members ∧
        (Bindings.image members Block.surfaceValues).length = 96 ∧
        ∀ rules, Block.surface.Holds rules (Bindings.image members Block.surfaceValues)
          Block.surfaceValues := by
  have hblock : Block.surface ∈ surfacesContract.blocks := List.mem_singleton_self _
  obtain ⟨members, hmembers, hread⟩ :=
    Schema.host_values_are_read surfaces surfacesContract .surface validate_surfaces hblock
  have hfits : Block.surface.Fits Block.surfaceValues :=
    .cons rfl (.cons rfl (.cons rfl (.cons rfl .nil)))
  obtain ⟨hlength, -, hportable⟩ := hread Block.surfaceValues hfits
  have hsize : (Block.surface.layout .metal).size = 96 := by decide
  refine ⟨validate_surfaces, hblock, members, hmembers, hlength.trans hsize, hportable ?_⟩
  exact (Contract.checkPortability_eq_ok_iff _ _).mpr (Contract.surfaces_agreesUnder _)

end ShaderLayout
