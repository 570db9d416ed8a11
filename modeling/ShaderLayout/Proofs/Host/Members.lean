import Mathlib.Algebra.Ring.Nat
import ShaderLayout.Proofs.Host.Image
import ShaderLayout.Proofs.Schema.WellFormed
import ShaderLayout.Target.Text

/-!
Structures of the host bindings. Their members stand one behind the other: every
gap is a member of whole words, so that each field starts at its offset in the
layout and the structure ends with it. A compiler that aligns members to four
bytes, as host types are aligned, finds nothing to add. All structures of an
accepted schema can be written this way.
-/

namespace ShaderLayout

namespace Bindings

/-- The gaps in front of placed fields and behind them, in bytes. -/
def gapsFrom (size : Nat) : Nat → List PlacedField → List Nat
  | cursor, [] => if cursor < size then [size - cursor] else []
  | cursor, placed :: rest =>
    (if cursor < placed.offset then [placed.offset - cursor] else []) ++
      gapsFrom size (placed.offset + placed.type.hostSize) rest

namespace Member

/-- The padding member for the gap up to `stop`, if there is one. -/
def gapTo (number cursor stop : Nat) : List Member :=
  if cursor < stop then [gap number (stop - cursor)] else []

def words? : Member → Option Nat
  | .field _ _ => none
  | .padding _ words => some words

/-- Members one behind the other from `cursor` on, each with its offset. -/
def standing : Nat → List Member → List (Member × Nat)
  | _, [] => []
  | cursor, member :: members => (member, cursor) :: standing (cursor + member.size) members

/-- The alignment of all host types and of the words of padding. -/
def hostAlign : Nat := 4

/-- Members where a compiler puts them from `cursor` on: each at the next multiple of its
alignment. -/
def compiled : Nat → List Member → List (Member × Nat)
  | _, [] => []
  | cursor, member :: members =>
    (member, alignUp cursor hostAlign) :: compiled (alignUp cursor hostAlign + member.size) members

/-- The first byte behind members where a compiler puts them. -/
def compiledStop : Nat → List Member → Nat
  | cursor, [] => cursor
  | cursor, member :: members => compiledStop (alignUp cursor hostAlign + member.size) members

/-- The size that a compiler gives a structure: a multiple of its alignment. -/
def compiledSize (members : List Member) : Nat :=
  alignUp (compiledStop 0 members) hostAlign

/-- A field among members, with its offset. -/
def placed? : Member × Nat → Option PlacedField
  | (.field name type, offset) => some ⟨name, type, offset⟩
  | (.padding _ _, _) => none

theorem four_dvd_size (member : Member) : 4 ∣ member.size := by
  cases member with
  | field name type => exact type.four_dvd_hostSize
  | padding name words => exact Nat.dvd_mul_right 4 words

/-- Members of whole words leave a compiler no gap to fill. -/
theorem compiled_eq_standing {cursor : Nat} (h : 4 ∣ cursor) (members : List Member) :
    compiled cursor members = standing cursor members ∧
      compiledStop cursor members = cursor + (members.map size).sum ∧
      4 ∣ compiledStop cursor members := by
  induction members generalizing cursor with
  | nil => exact ⟨rfl, rfl, h⟩
  | cons member members ih =>
      obtain ⟨hoffsets, hstop, hwords⟩ := ih (Nat.dvd_add h member.four_dvd_size)
      have halign : alignUp cursor hostAlign = cursor := alignUp_of_dvd (by decide) h
      simp only [compiled, compiledStop, standing, halign, hoffsets, hstop, List.map_cons,
        List.sum_cons]
      exact ⟨trivial, Nat.add_assoc .., hstop ▸ hwords⟩

/-! What the members for placed fields are. -/

theorem placeFrom_nil_eq_ok_iff {size pads cursor : Nat} {members : List Member} :
    placeFrom size pads cursor [] = .ok members ↔
      cursor ≤ size ∧ members = gapTo pads cursor size := by
  rw [placeFrom, gapTo]
  split
  · next hshort =>
      refine iff_of_false ?_ fun h => Nat.not_le.mpr hshort h.1
      rintro ⟨⟩
  next hlong =>
    rw [and_iff_right (Nat.not_lt.mp hlong)]
    split <;> exact ⟨fun h => (Except.ok.inj h).symm, fun h => congrArg Except.ok h.symm⟩

theorem placeFrom_cons_eq_ok_iff {size pads cursor : Nat} {placed : PlacedField}
    {rest : List PlacedField} {members : List Member} :
    placeFrom size pads cursor (placed :: rest) = .ok members ↔
      cursor ≤ placed.offset ∧
      ∃ later, placeFrom size (pads + (gapTo pads cursor placed.offset).length)
          (placed.offset + placed.type.hostSize) rest = .ok later ∧
        members = gapTo pads cursor placed.offset ++ .field placed.name placed.type :: later := by
  rw [placeFrom, guard_eq_ok_iff, Nat.not_lt, gapTo]
  refine and_congr_right fun _ => ?_
  split
  · simp only [bind_eq_ok_iff]
    exact exists_congr fun later => and_congr_right fun _ =>
      ⟨fun h => (Except.ok.inj h).symm, fun h => congrArg Except.ok h.symm⟩
  · simp only [bind_eq_ok_iff]
    exact exists_congr fun later => and_congr_right fun _ =>
      ⟨fun h => (Except.ok.inj h).symm, fun h => congrArg Except.ok h.symm⟩

variable {size pads cursor stop : Nat} {placed : List PlacedField} {members : List Member}

theorem sum_gapTo (hcursor : cursor ≤ stop) (hwords : 4 ∣ stop - cursor) (number : Nat) :
    cursor + ((gapTo number cursor stop).map Member.size).sum = stop := by
  rw [gapTo]
  split
  · simp only [gap, List.map_cons, List.map_nil, Member.size, List.sum_singleton,
      Nat.mul_div_cancel' hwords]
    omega
  · simp only [List.map_nil, List.sum_nil]
    omega

theorem standing_gapTo_append (hcursor : cursor ≤ stop) (hwords : 4 ∣ stop - cursor) (number : Nat)
    (members : List Member) :
    (standing cursor (gapTo number cursor stop ++ members)).filterMap placed? =
      (standing stop members).filterMap placed? := by
  rw [gapTo]
  split
  · simp only [gap, List.singleton_append, standing, Member.size, Nat.mul_div_cancel' hwords,
      Nat.add_sub_cancel' hcursor, List.filterMap_cons, placed?]
  · next heq =>
      have heq : cursor = stop := by omega
      rw [heq, List.nil_append]

theorem words_gapTo (number cursor stop : Nat) :
    (gapTo number cursor stop).filterMap words? =
      (if cursor < stop then [stop - cursor] else []).map (· / 4) := by
  rw [gapTo]
  split <;> rfl

theorem mem_gap {cursor stop bytes : Nat} (hwords : 4 ∣ stop - cursor)
    (h : bytes ∈ if cursor < stop then [stop - cursor] else []) : 0 < bytes ∧ 4 ∣ bytes := by
  split at h
  · next hlt =>
      rw [List.mem_singleton.mp h]
      exact ⟨Nat.sub_pos_of_lt hlt, hwords⟩
  · cases h

end Member

/-- Members fill a structure of `size` bytes from `cursor` on: gaps are whole words and stand there
as padding, and each field starts at its offset. -/
structure FillsFrom (size cursor : Nat) (placed : List PlacedField) (members : List Member) :
    Prop where
  gaps : ∀ bytes ∈ gapsFrom size cursor placed, 0 < bytes ∧ 4 ∣ bytes
  padding : members.filterMap Member.words? = (gapsFrom size cursor placed).map (· / 4)
  fields : (Member.standing cursor members).filterMap Member.placed? = placed
  stop : cursor + (members.map Member.size).sum = size

variable {size pads cursor : Nat} {placed : List PlacedField} {members : List Member}

theorem fillsFrom_of_placeFrom (hcursor : 4 ∣ cursor) (hsize : 4 ∣ size)
    (hoffsets : ∀ field ∈ placed, 4 ∣ field.offset)
    (h : Member.placeFrom size pads cursor placed = .ok members) :
    FillsFrom size cursor placed members := by
  induction placed generalizing pads cursor members with
  | nil =>
      obtain ⟨hle, rfl⟩ := Member.placeFrom_nil_eq_ok_iff.mp h
      have hwords := Nat.dvd_sub hsize hcursor
      refine ⟨fun bytes => Member.mem_gap hwords, Member.words_gapTo .., ?_,
        Member.sum_gapTo hle hwords pads⟩
      have hstanding := Member.standing_gapTo_append hle hwords pads []
      rwa [List.append_nil] at hstanding
  | cons field rest ih =>
      obtain ⟨hle, later, hlater, rfl⟩ := Member.placeFrom_cons_eq_ok_iff.mp h
      obtain ⟨hoffset, hoffsets⟩ := List.forall_mem_cons.mp hoffsets
      have hwords := Nat.dvd_sub hoffset hcursor
      have hrest := ih (Nat.dvd_add hoffset field.type.four_dvd_hostSize) hoffsets hlater
      refine ⟨?_, ?_, ?_, ?_⟩
      · rw [gapsFrom, List.forall_mem_append]
        exact ⟨fun bytes => Member.mem_gap hwords, hrest.gaps⟩
      · rw [gapsFrom, List.filterMap_append, Member.words_gapTo, List.map_append, ← hrest.padding]
        rfl
      · rw [Member.standing_gapTo_append hle hwords, Member.standing, List.filterMap_cons]
        exact congrArg (field :: ·) hrest.fields
      · rw [List.map_append, List.sum_append, List.map_cons, List.sum_cons, ← Nat.add_assoc,
          Member.sum_gapTo hle hwords, ← Nat.add_assoc]
        exact hrest.stop

/-! Names of members. -/

theorem padName_injective {first second : Nat} (h : s!"_pad{first}" = s!"_pad{second}") :
    first = second := by
  have hdigits := congrArg String.toList h
  simp only [toString, String.toList_append, List.append_right_inj, Nat.toList_repr] at hdigits
  have hvalue := congrArg (Nat.ofDigitChars 10 · 0) hdigits
  simpa only [Nat.ofDigitChars_ten_toDigits] using hvalue

theorem gapTo_name (number cursor stop : Nat) :
    (Member.gapTo number cursor stop).map Member.name =
      List.replicate (Member.gapTo number cursor stop).length s!"_pad{number}" := by
  rw [Member.gapTo]
  split <;> rfl

theorem length_gapTo_le (number cursor stop : Nat) :
    (Member.gapTo number cursor stop).length ≤ 1 := by
  rw [Member.gapTo]
  split
  · exact Nat.le_refl 1
  · exact Nat.zero_le 1

theorem not_isAccepted_padName (number : Nat) : ¬Name.isAccepted s!"_pad{number}" := by
  have hstarts : Name.startsReserved (s!"_pad{number}").toList := by
    rw [Name.startsReserved, Bool.or_eq_true]
    refine .inr (List.isPrefixOf_iff_prefix.mpr ?_)
    simp only [toString, String.toList_append]
    exact List.prefix_append ..
  intro haccepted
  obtain ⟨-, hfree, -⟩ := Name.isAccepted_iff.mp haccepted
  rw [hstarts] at hfree
  cases hfree

/-- Padding takes fresh numbers, so that no two members share a name where no field is named like
padding. -/
theorem nodup_of_placeFrom (hnames : (placed.map (·.name)).Nodup)
    (hpads : ∀ field ∈ placed, ∀ number : Nat, field.name ≠ s!"_pad{number}")
    (h : Member.placeFrom size pads cursor placed = .ok members) :
    (members.map Member.name).Nodup ∧
      ∀ name ∈ members.map Member.name, name ∈ placed.map (·.name) ∨
        ∃ number, pads ≤ number ∧ name = s!"_pad{number}" := by
  induction placed generalizing pads cursor members with
  | nil =>
      obtain ⟨-, rfl⟩ := Member.placeFrom_nil_eq_ok_iff.mp h
      rw [gapTo_name]
      refine ⟨List.nodup_replicate.mpr (length_gapTo_le ..), fun name hname => .inr ?_⟩
      exact ⟨pads, Nat.le_refl _, List.eq_of_mem_replicate hname⟩
  | cons field rest ih =>
      obtain ⟨-, later, hlater, rfl⟩ := Member.placeFrom_cons_eq_ok_iff.mp h
      obtain ⟨hfield, hnames⟩ := List.nodup_cons.mp hnames
      obtain ⟨hpad, hpads⟩ := List.forall_mem_cons.mp hpads
      obtain ⟨hnodup, hlaterNames⟩ := ih hnames hpads hlater
      have hfieldNew : field.name ∉ later.map Member.name := by
        intro hmem
        rcases hlaterNames _ hmem with hmem | ⟨number, -, hname⟩
        · exact hfield hmem
        · exact hpad number hname
      rw [List.map_append, List.map_cons, gapTo_name]
      constructor
      · refine List.nodup_append.mpr ⟨List.nodup_replicate.mpr (length_gapTo_le ..),
          List.nodup_cons.mpr ⟨hfieldNew, hnodup⟩, ?_⟩
        -- With a gap in front, all later padding has a larger number.
        rintro first hfirst second hsecond rfl
        have hlen : 0 < (Member.gapTo pads cursor field.offset).length := by
          have hne := List.ne_nil_of_mem hfirst
          rw [ne_eq, List.replicate_eq_nil_iff] at hne
          omega
        have hfirst := List.eq_of_mem_replicate hfirst
        rcases List.mem_cons.mp hsecond with heq | hmem
        · exact hpad pads (heq.symm.trans hfirst)
        · rcases hlaterNames _ hmem with hmem | ⟨number, hle, hname⟩
          · obtain ⟨other, hother, heq⟩ := List.mem_map.mp hmem
            exact hpads other hother pads (heq.trans hfirst)
          · have heq := padName_injective (hfirst.symm.trans hname)
            omega
      · intro name hname
        rcases List.mem_append.mp hname with hgap | hname
        · exact .inr ⟨pads, Nat.le_refl _, List.eq_of_mem_replicate hgap⟩
        · rcases List.mem_cons.mp hname with rfl | hmem
          · exact .inl List.mem_cons_self
          · rcases hlaterNames _ hmem with hmem | ⟨number, hle, hname⟩
            · exact .inl (List.mem_cons_of_mem _ hmem)
            · exact .inr ⟨number, Nat.le_trans (Nat.le_add_right ..) hle, hname⟩

/-- Members that make a structure of `size` bytes with the placed fields at their offsets, for every
compiler that aligns members to four bytes, and with a name for each member. -/
structure Exact (size : Nat) (placed : List PlacedField) (members : List Member) : Prop
    extends FillsFrom size 0 placed members where
  compiled : (Member.compiled 0 members).filterMap Member.placed? = placed
  compiledSize : Member.compiledSize members = size
  names : (members.map Member.name).Nodup

theorem exact_of_placeFrom (hsize : 4 ∣ size) (hoffsets : ∀ field ∈ placed, 4 ∣ field.offset)
    (hnames : (placed.map (·.name)).Nodup)
    (haccepted : ∀ field ∈ placed, Name.isAccepted field.name)
    (h : Member.placeFrom size 0 0 placed = .ok members) : Exact size placed members := by
  have hfills := fillsFrom_of_placeFrom (Nat.dvd_zero 4) hsize hoffsets h
  obtain ⟨hcompiled, hstop, hwords⟩ := Member.compiled_eq_standing (Nat.dvd_zero 4) members
  refine ⟨hfills, ?_, ?_, (nodup_of_placeFrom hnames ?_ h).1⟩
  · rw [hcompiled, hfills.fields]
  · rw [Member.compiledSize, Member.hostAlign, alignUp_of_dvd (by decide) hwords, hstop,
      hfills.stop]
  · intro field hfield number hname
    exact not_isAccepted_padName number (hname ▸ haccepted field hfield)

end Bindings

open Bindings

/-! The structures of blocks and vertices. -/

/-- The fields of a block, with the offsets that members have to give them. -/
def BlockLayout.placedFields (layout : BlockLayout) : List PlacedField :=
  layout.fields.map fun field => ⟨field.name, field.type, field.offset⟩

/-- The attributes of a vertex, with the offsets that members have to give them. -/
def VertexLayout.placedFields (layout : VertexLayout) : List PlacedField :=
  layout.attributes.map fun attr => ⟨attr.name, attr.format, attr.offset⟩

theorem Block.WellFormed.exists_members {slots : List Slot} {block : Block}
    (h : block.WellFormed slots) (rules : LayoutRules) :
    ∃ members, blockMembers (block.layout rules) = .ok members ∧
      Exact (block.layout rules).size (block.layout rules).placedFields members := by
  have hplaced := block.placed_layout rules
  obtain ⟨members, hmembers, -⟩ := hplaced.exists_blockMembers
  have hnames : (block.layout rules).placedFields.map (·.name) = block.fields.map (·.name) := by
    rw [← block.map_name_layout rules, BlockLayout.placedFields, List.map_map]
    rfl
  refine ⟨members, hmembers, exact_of_placeFrom hplaced.words ?_ ?_ ?_ hmembers⟩
  · refine List.forall_mem_map.mpr fun field hfield => ?_
    exact Nat.dvd_trans field.type.four_dvd_align (hplaced.aligned field hfield)
  · rw [hnames]
    exact nodup_map_of_renderings h.renderings
  · intro placed hmem
    have hname := List.mem_map_of_mem (f := fun placed => placed.name) hmem
    rw [hnames] at hname
    obtain ⟨field, hfield, heq⟩ := List.mem_map.mp hname
    exact heq ▸ h.names field hfield

namespace AttributeLayout

/-- The attribute as a field as large as its host type. -/
def field (attr : AttributeLayout) : FieldLayout :=
  ⟨attr.name, attr.format, attr.offset, attr.format.hostSize⟩

/-- Vectors and scalars are packed as they are on the host. -/
theorem stacked_packAll (location : Nat) {size offset : Nat} {attrs : List Attribute}
    (hvectors : ∀ attr ∈ attrs, ¬attr.format.isMatrix) (hwords : 4 ∣ offset)
    (hsize : offset + attrs.foldr (fun attr size => attr.format.packedSize + size) 0 ≤ size) :
    Stacked size offset ((packAll location offset attrs).map field) ∧
      ∀ attr ∈ packAll location offset attrs, 4 ∣ attr.offset := by
  induction attrs generalizing location offset with
  | nil => exact ⟨.nil hsize, nofun⟩
  | cons attr attrs ih =>
      obtain ⟨hvector, hvectors⟩ := List.forall_mem_cons.mp hvectors
      have hhost : attr.format.hostSize = attr.format.packedSize := by
        cases hformat : attr.format <;>
          first | rfl | (rw [hformat] at hvector; exact absurd rfl hvector)
      have hpacked : 4 ∣ attr.format.packedSize := Nat.dvd_mul_left 4 _
      rw [List.foldr_cons, ← Nat.add_assoc] at hsize
      obtain ⟨hstacked, hoffsets⟩ := ih (location + 1) hvectors
        (Nat.dvd_add hwords hpacked) hsize
      refine ⟨.cons (Nat.le_refl offset) hwords ?_, List.forall_mem_cons.mpr ⟨hwords, hoffsets⟩⟩
      simpa only [field, hhost] using hstacked

end AttributeLayout

theorem VertexInput.WellFormed.exists_members {slots : List Slot} {input : VertexInput}
    (h : input.WellFormed slots) :
    ∃ members, vertexMembers input.layout = .ok members ∧
      Exact input.layout.stride input.layout.placedFields members := by
  have hpacked : 4 ∣ input.packedSize := by
    rw [packedSize]
    induction input.attributes with
    | nil => exact Nat.dvd_zero 4
    | cons attr attrs ih => exact Nat.dvd_add (Nat.dvd_mul_left 4 _) ih
  have hstride : 4 ∣ input.layout.stride ∧ input.packedSize ≤ input.layout.stride := by
    show 4 ∣ input.stride.getD _ ∧ _ ≤ input.stride.getD _
    cases hstride : input.stride with
    | none => exact ⟨hpacked, Nat.le_refl _⟩
    | some stride => exact h.stride stride hstride
  obtain ⟨hstacked, hoffsets⟩ := AttributeLayout.stacked_packAll 0 h.vectors
    (Nat.dvd_zero 4) ((Nat.zero_add _).le.trans hstride.2)
  obtain ⟨members, hmembers, -⟩ := Bindings.exists_members hstacked (Nat.dvd_zero 4) hstride.1 0
  rw [List.map_map] at hmembers
  have hnames : input.layout.placedFields.map (·.name) = input.attributes.map (·.name) := by
    rw [← AttributeLayout.map_name_packAll 0 0, VertexLayout.placedFields, List.map_map]
    rfl
  refine ⟨members, hmembers, exact_of_placeFrom hstride.1 ?_ ?_ ?_ hmembers⟩
  · exact List.forall_mem_map.mpr hoffsets
  · rw [hnames]
    exact nodup_map_of_renderings h.renderings
  · intro placed hmem
    have hname := List.mem_map_of_mem (f := fun placed => placed.name) hmem
    rw [hnames] at hname
    obtain ⟨attr, hattr, heq⟩ := List.mem_map.mp hname
    exact heq ▸ h.names attr hattr

/-- The bindings of an accepted schema can be written under the rules of any host. Each structure
has the size of its layout and each field in it its offset, with all padding in whole words, and a
compiler adds nothing. -/
theorem Schema.host_structures_are_exact (schema : Schema) (contract : Contract)
    (hvalid : schema.validate = .ok contract) (rules : LayoutRules) :
    let hosted : Contract := { contract with hostRules := rules }
    ∃ bindings, Bindings.ofContract hosted = .ok bindings ∧
      (∀ schemaName schemaText, Target.rust.text ⟨hosted, schemaName, schemaText⟩ =
        .ok (Text.unlines (Bindings.lines ⟨hosted, schemaName, schemaText⟩ bindings))) ∧
      bindings.blocks.map (·.layout) = contract.blocks.map (·.layout rules) ∧
      bindings.vertices.map (·.layout) = contract.vertexInputs.map (·.layout) ∧
      (∀ struct ∈ bindings.blocks, blockMembers struct.layout = .ok struct.members ∧
        Exact struct.layout.size struct.layout.placedFields struct.members) ∧
      ∀ struct ∈ bindings.vertices, vertexMembers struct.layout = .ok struct.members ∧
        Exact struct.layout.stride struct.layout.placedFields struct.members := by
  obtain ⟨hwell, hyields⟩ := Schema.validate_eq_ok_iff.mp hvalid
  have hblocks : ∀ block ∈ contract.blocks, ∃ members,
      blockMembers (block.layout rules) = .ok members ∧
        Exact (block.layout rules).size (block.layout rules).placedFields members :=
    fun block hblock => (hwell.blocks block (hyields.blocks ▸ hblock)).exists_members rules
  have hinputs : ∀ input ∈ contract.vertexInputs, ∃ members,
      vertexMembers input.layout = .ok members ∧
        Exact input.layout.stride input.layout.placedFields members :=
    fun input hinput => (hwell.vertexInputs input (hyields.vertexInputs ▸ hinput)).exists_members
  choose! blockMembersOf hblocks using hblocks
  choose! vertexMembersOf hinputs using hinputs
  intro hosted
  have hbindings : Bindings.ofContract hosted = .ok
      { hostRules := rules
        enums := BindingClass.all.map (indexEnum hosted)
        aliases := hosted.scalarSlots.map fun entry =>
          (entry.1.name, Name.pascal entry.1.name, entry.2)
        blocks := contract.blocks.map fun block =>
          ⟨block.layout rules, Name.pascal block.slot, blockMembersOf block⟩
        vertices := contract.vertexInputs.map fun input =>
          ⟨input.layout, Name.pascal input.slot, vertexMembersOf input⟩ } := by
    refine bind_eq_ok_iff.mpr ⟨_, mapM_eq_ok_of_forall fun block hblock => ?_,
      bind_eq_ok_iff.mpr ⟨_, mapM_eq_ok_of_forall fun input hinput => ?_, rfl⟩⟩
    · exact bind_eq_ok_iff.mpr ⟨_, (hblocks block hblock).1, rfl⟩
    · exact bind_eq_ok_iff.mpr ⟨_, (hinputs input hinput).1, rfl⟩
  refine ⟨_, hbindings, fun schemaName schemaText => ?_, ?_, ?_, ?_, ?_⟩
  · exact bind_eq_ok_iff.mpr ⟨_, hbindings, rfl⟩
  · exact List.map_map
  · exact List.map_map
  · exact List.forall_mem_map.mpr hblocks
  · exact List.forall_mem_map.mpr hinputs

theorem Schema.mesh_structures_are_exact :
    meshes.validate = .ok meshesContract ∧
      ∃ bindings, Bindings.ofContract meshesContract = .ok bindings ∧
        bindings.blocks.map (fun struct => struct.members.map Member.name) =
          [["eye", "_pad0", "normal", "time", "_pad1"]] ∧
        bindings.vertices.map (fun struct => struct.members.map Member.name) =
          [["position", "uv", "_pad0"]] ∧
        ∀ struct ∈ bindings.blocks,
          Exact struct.layout.size struct.layout.placedFields struct.members := by
  obtain ⟨bindings, hbindings, -, -, -, hblocks, -⟩ :=
    Schema.host_structures_are_exact meshes meshesContract validate_meshes .metal
  refine ⟨validate_meshes, bindings, hbindings, ?_, ?_,
    fun struct hstruct => (hblocks struct hstruct).2⟩
  · cases hbindings
    decide +kernel
  · cases hbindings
    decide +kernel

end ShaderLayout
