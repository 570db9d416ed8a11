import ShaderLayout.Field.Shape
import ShaderLayout.Host.Contract
import ShaderLayout.Proofs.Memory.Store

/-!
What is read from a buffer is all there is in it, apart from padding. A field
that is written back as it was read changes nothing; buffers with the same
fields and the same padding are the same; and so it does not matter which of two
fields is written first.
-/

namespace ShaderLayout

namespace BlockLayout

variable {layout : BlockLayout} {bytes first second : List UInt8} {name : String}
  {value : FieldValue} {one other : FieldWrite}

/-! ### Reading a block -/

theorem Placed.writeField_of_readField (hlayout : layout.Placed)
    (h : layout.readField bytes name = .ok value) :
    layout.writeField bytes name value = .ok bytes := by
  rw [readField_eq] at h
  rw [writeField_eq_ok_iff]
  cases hlocate : layout.locate bytes.length name with
  | error error => rw [hlocate] at h; cases h
  | ok field =>
      rw [hlocate] at h
      cases h
      exact ⟨field, rfl, rfl,
        FieldLayout.setWords_map_wordAt fun _ => hlayout.wordOffsets_in_buffer hlocate⟩

/-- Buffers that hold a block are the same when all fields are read alike and the bytes that belong
to no field that can be read are the same. -/
theorem Placed.eq_of_readField (hlayout : layout.Placed) (hsize : layout.size ≤ first.length)
    (hlength : first.length = second.length)
    (hfields : ∀ name, layout.readField first name = layout.readField second name)
    (hrest : ∀ place, (∀ name, ¬layout.Covers name place) → first[place]? = second[place]?) :
    first = second := by
  apply List.ext_getElem?
  intro place
  by_cases hplace : ∃ name, layout.Covers name place
  · obtain ⟨name, field, hfield, howns⟩ := hplace
    have hlocate : layout.locate first.length name = .ok field :=
      locate_eq_ok_iff.mpr ⟨hsize, hfield⟩
    have hread := hfields name
    rw [readField_eq, readField_eq, ← hlength, hlocate] at hread
    exact FieldLayout.getElem?_of_readFrom hlength
      (fun _ => hlayout.wordOffsets_in_buffer hlocate) (Except.ok.inj hread) howns
  · exact hrest place (not_exists.mp hplace)

/-- Where names are distinct, every field can be read, and what belongs to none of them is padding. -/
theorem Placed.eq_of_fields (hlayout : layout.Placed)
    (hnames : (layout.fields.map (·.name)).Nodup) (hsize : layout.size ≤ first.length)
    (hlength : first.length = second.length)
    (hfields : ∀ field ∈ layout.fields,
      layout.readField first field.name = layout.readField second field.name)
    (hpadding : ∀ place, (∀ field ∈ layout.fields, ¬field.Owns place) →
      first[place]? = second[place]?) :
    first = second := by
  apply hlayout.eq_of_readField hsize hlength
  · intro name
    cases hfield : layout.field? name with
    | some field => exact name_of_field? hfield ▸ hfields field (mem_of_field? hfield)
    | none =>
        rw [readField_eq, readField_eq, hlength]
        cases hlocate : layout.locate second.length name with
        | error error => rw [Except.map, Except.map]
        | ok found =>
            rw [(locate_eq_ok_iff.mp hlocate).2] at hfield
            cases hfield
  · intro place hplace
    apply hpadding
    intro field hfield howns
    exact hplace field.name ⟨field, field?_of_mem hnames hfield, howns⟩

/-! ### The order of writes -/

/-- Whether a write succeeds, and how it fails otherwise, depends on the length of the buffer only. -/
theorem map_writeField_congr (layout : BlockLayout) (hlength : first.length = second.length)
    (name : String) (value : FieldValue) :
    (layout.writeField first name value).map (fun _ => ()) =
      (layout.writeField second name value).map fun _ => () := by
  rw [writeField_eq, writeField_eq, hlength]
  cases layout.locate second.length name with
  | error error => rfl
  | ok field => by_cases htype : value.type = field.type <;> simp [Except.bind, Except.map, htype]

theorem writeField_error_of_length {error : LayoutError} (hlength : first.length = second.length)
    (h : layout.writeField first name value = .error error) :
    layout.writeField second name value = .error error := by
  have hsame := map_writeField_congr layout hlength name value
  rw [h] at hsame
  cases hsecond : layout.writeField second name value with
  | error cause =>
      rw [hsecond] at hsame
      exact congrArg Except.error (Except.error.inj hsame).symm
  | ok written => rw [hsecond] at hsame; cases hsame

theorem exists_writeField_of_length {written : List UInt8} (hlength : first.length = second.length)
    (h : layout.writeField first name value = .ok written) :
    ∃ written', layout.writeField second name value = .ok written' := by
  cases hsecond : layout.writeField second name value with
  | ok written' => exact ⟨written', rfl⟩
  | error error =>
      rw [writeField_error_of_length hlength.symm hsecond] at h
      cases h

/-- Two writes to different fields leave the same whichever comes first: every field is read alike
afterwards, and neither write touches what no field covers. -/
theorem Placed.writeField_comm (hlayout : layout.Placed) (hne : one.name ≠ other.name)
    {written written' : List UInt8} (hone : layout.writeField bytes one.name one.value = .ok written)
    (hother : layout.writeField bytes other.name other.value = .ok written') :
    ∃ final, layout.writeField written other.name other.value = .ok final ∧
      layout.writeField written' one.name one.value = .ok final := by
  have hlength := length_of_writeField hone
  have hlength' := length_of_writeField hother
  obtain ⟨final, hfinal⟩ := exists_writeField_of_length hlength.symm hother
  obtain ⟨final', hfinal'⟩ := exists_writeField_of_length hlength'.symm hone
  have hsame : final = final' := by
    obtain ⟨_, hlocate, -⟩ := writeField_eq_ok_iff.mp hfinal
    have hlast := length_of_writeField hfinal
    have hlast' := length_of_writeField hfinal'
    apply hlayout.eq_of_readField
    · rw [hlast]
      exact (locate_eq_ok_iff.mp hlocate).1
    · rw [hlast, hlast', hlength, hlength']
    · intro name
      rw [hlayout.readField_of_writeField hfinal, hlayout.readField_of_writeField hone,
        hlayout.readField_of_writeField hfinal', hlayout.readField_of_writeField hother]
      by_cases hname : name = one.name
      · rw [if_neg (hname ▸ hne), if_pos hname, if_pos hname]
      · rw [if_neg hname, if_neg hname]
    · intro place hplace
      rw [getElem?_of_writeField hfinal (hplace _), getElem?_of_writeField hone (hplace _),
        getElem?_of_writeField hfinal' (hplace _), getElem?_of_writeField hother (hplace _)]
  exact ⟨final, hfinal, hsame ▸ hfinal'⟩

/-- Calls on different names may change places: each gets its answer, and the buffer is the same. -/
theorem Placed.storeFields_comm (hlayout : layout.Placed) (hne : one.name ≠ other.name)
    (bytes : List UInt8) :
    ∃ answer answer' final,
      layout.storeFields [one, other] bytes = some ([(one, answer), (other, answer')], final) ∧
      layout.storeFields [other, one] bytes = some ([(other, answer'), (one, answer)], final) := by
  cases hone : layout.writeField bytes one.name one.value with
  | error error =>
      cases hother : layout.writeField bytes other.name other.value with
      | error error' =>
          exact ⟨_, _, bytes,
            hlayout.storeFields_cons_error hone (hlayout.storeFields_cons_error hother rfl),
            hlayout.storeFields_cons_error hother (hlayout.storeFields_cons_error hone rfl)⟩
      | ok written =>
          have hlater := writeField_error_of_length (length_of_writeField hother).symm hone
          exact ⟨_, _, written,
            hlayout.storeFields_cons_error hone (hlayout.storeFields_cons_ok hother rfl),
            hlayout.storeFields_cons_ok hother (hlayout.storeFields_cons_error hlater rfl)⟩
  | ok written =>
      cases hother : layout.writeField bytes other.name other.value with
      | error error =>
          have hlater := writeField_error_of_length (length_of_writeField hone).symm hother
          exact ⟨_, _, written,
            hlayout.storeFields_cons_ok hone (hlayout.storeFields_cons_error hlater rfl),
            hlayout.storeFields_cons_error hother (hlayout.storeFields_cons_ok hone rfl)⟩
      | ok written' =>
          obtain ⟨final, hfinal, hfinal'⟩ := hlayout.writeField_comm hne hone hother
          exact ⟨_, _, final,
            hlayout.storeFields_cons_ok hone (hlayout.storeFields_cons_ok hfinal rfl),
            hlayout.storeFields_cons_ok hother (hlayout.storeFields_cons_ok hfinal' rfl)⟩

end BlockLayout

theorem ShapedValue.bijective_value : Function.Bijective ShapedValue.value :=
  Function.bijective_iff_has_inverse.mpr
    ⟨FieldValue.shaped, ShapedValue.shaped_value, FieldValue.value_shaped⟩

/-- A buffer that holds a block is its fields and its padding. Each field is read as a value of one
shape, which can be written back and leaves every byte as it was; where names are distinct, fields
and padding make up the whole buffer; and writes to different names may change places, whether they
succeed or not. -/
theorem Block.fields_and_padding_determine (block : Block) (rules : LayoutRules) :
    let layout := block.layout rules
    Function.Bijective ShapedValue.value ∧
    (∀ bytes, layout.size ≤ bytes.length → ∀ field ∈ block.fields,
      ∃ shaped : ShapedValue, layout.readField bytes field.name = .ok shaped.value ∧
        layout.writeField bytes field.name shaped.value = .ok bytes) ∧
    ((block.fields.map (·.name)).Nodup →
      ∀ first second, layout.size ≤ first.length → first.length = second.length →
        (∀ field ∈ block.fields,
          layout.readField first field.name = layout.readField second field.name) →
        (∀ place, (∀ field ∈ layout.fields, ¬field.Owns place) → first[place]? = second[place]?) →
        first = second) ∧
    ∀ bytes (one other : FieldWrite), one.name ≠ other.name →
      ∃ answer answer' final,
        layout.storeFields [one, other] bytes = some ([(one, answer), (other, answer')], final) ∧
        layout.storeFields [other, one] bytes = some ([(other, answer'), (one, answer)], final) := by
  have hlayout := block.placed_layout rules
  refine ⟨ShapedValue.bijective_value, ?_, ?_,
    fun bytes one other hne => hlayout.storeFields_comm hne bytes⟩
  · intro bytes hsize field hfield
    have hname : field.name ∈ (block.layout rules).fields.map (·.name) :=
      block.map_name_layout rules ▸ List.mem_map_of_mem hfield
    obtain ⟨value, hvalue⟩ := BlockLayout.exists_readField_iff.mpr ⟨hsize, hname⟩
    obtain ⟨shaped, rfl⟩ := ShapedValue.bijective_value.surjective value
    exact ⟨shaped, hvalue, hlayout.writeField_of_readField hvalue⟩
  · intro hnames first second hsize hlength hfields hpadding
    rw [← block.map_name_layout rules] at hnames
    refine hlayout.eq_of_fields hnames hsize hlength (fun field hfield => ?_) hpadding
    have hplaced : field.field ∈ block.fields :=
      FieldLayout.map_field_placeAll rules 0 block.fields ▸ List.mem_map_of_mem hfield
    exact hfields field.field hplaced

/-- The handle for rotations in a buffer full of one byte, with a byte set and set back, and with two
of its fields written. -/
theorem Block.circle_fields_and_padding :
    let circle := Host.circleUniforms.layout .metal
    let bytes := List.replicate 48 (7 : UInt8)
    let again := (bytes.set 4 0).set 4 7
    let radius : FieldWrite := ⟨"radius", ⟨.float, [0x3f800000], rfl⟩⟩
    let color : FieldWrite := ⟨"color", ⟨.float3, [0, 0, 0x3f800000], rfl⟩⟩
    circle.size ≤ bytes.length ∧
      (∃ shaped : ShapedValue, circle.readField bytes "color" = .ok shaped.value ∧
        circle.writeField bytes "color" shaped.value = .ok bytes) ∧
      (Host.circleUniforms.fields.map (·.name)).Nodup ∧ bytes.length = again.length ∧
      bytes = again ∧ radius.name ≠ color.name ∧
      ∃ answer answer' final,
        circle.storeFields [radius, color] bytes =
          some ([(radius, answer), (color, answer')], final) ∧
        circle.storeFields [color, radius] bytes =
          some ([(color, answer'), (radius, answer)], final) := by
  intro circle bytes again radius color
  obtain ⟨-, hback, hsame, hswap⟩ :=
    Block.fields_and_padding_determine Host.circleUniforms .metal
  have hsize : circle.size ≤ bytes.length := by decide
  have hnames : (Host.circleUniforms.fields.map (·.name)).Nodup := by decide
  have hfields : ∀ field ∈ Host.circleUniforms.fields,
      circle.readField bytes field.name = circle.readField again field.name := by decide +kernel
  have hplaces : ∀ place, (∀ field ∈ circle.fields, ¬field.Owns place) →
      bytes[place]? = again[place]? := by
    intro place hplace
    have hset : place ≠ 4 := by
      rintro rfl
      exact hplace ⟨"thickness", .float, 4, 4⟩ (by decide) ⟨4, by decide, by decide, by decide⟩
    rw [List.getElem?_set_ne hset.symm, List.getElem?_set_ne hset.symm]
  exact ⟨hsize, hback bytes hsize ⟨"color", .float3⟩ (by decide), hnames, rfl,
    hsame hnames bytes again hsize rfl hfields hplaces, by decide,
    hswap bytes radius color (by decide)⟩

end ShaderLayout
