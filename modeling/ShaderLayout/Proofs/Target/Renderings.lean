import ShaderLayout.Bindings.Declaration
import ShaderLayout.Proofs.Target.Legality

/-!
Which renderings need a check. The rendering in capitals keeps the ends of words,
which the Pascal rendering loses; the Pascal and the camel rendering tell the same.
So it is enough to check one of the latter two: no check behind it can fail, and
names that pass it are distinct in every target.
-/

namespace ShaderLayout

namespace Name

/-! ### One rendering from another -/

theorem toUpper_toLower (c : Char) : c.toLower.toUpper = c.toUpper := by
  refine forall_char (by decide) ?_ c
  intro c h
  rw [toLower_of_le h]

/-- The Pascal rendering, told from the camel one. What it starts with is a capital already, or has
none. -/
theorem pascalChars_eq_of_camel (name : String) :
    pascalChars name = (camel name).toList.modifyHead Char.toUpper := by
  rw [toList_camel]
  cases hchars : pascalChars name with
  | nil => rfl
  | cons c cs =>
      have hhead := head?_pascalChars name
      rw [hchars, List.head?_cons] at hhead
      obtain ⟨first, -, rfl⟩ := Option.map_eq_some_iff.mp hhead.symm
      rw [uncapitalize, List.modifyHead_cons, toLower_toUpper, toUpper_toLower]

theorem pascal_eq_iff_camel_eq {first second : String} :
    pascal first = pascal second ↔ camel first = camel second := by
  refine ⟨camel_eq_of_pascal_eq, fun h => ?_⟩
  rw [pascal, pascal, pascalChars_eq_of_camel, h, ← pascalChars_eq_of_camel]

variable {α : Type} {items : List α} {name : α → String}

theorem nodup_pascal_iff_camel : (items.map fun item => pascal (name item)).Nodup ↔
    (items.map fun item => camel (name item)).Nodup := by
  simp only [List.nodup_iff_pairwise_ne, List.pairwise_map, ne_eq, pascal_eq_iff_camel_eq]

theorem nodup_shouty_of_pascal (h : (items.map fun item => pascal (name item)).Nodup) :
    (items.map fun item => shouty (name item)).Nodup := by
  rw [List.nodup_iff_pairwise_ne, List.pairwise_map] at h ⊢
  exact h.imp fun hne heq => hne (pascal_eq_of_shouty_eq heq)

end Name

open Name

/-! ### Checks that never fail -/

namespace Slot

theorem sharing?_shouty {earlier : List Slot} {slot : Slot}
    (h : (sharing? earlier (pascal ·.name) slot).isSome = false) :
    (sharing? earlier (shouty ·.name) slot).isSome = false := by
  rw [← Bool.not_eq_true, sharing?_isSome] at h ⊢
  rintro ⟨other, hother, heq⟩
  exact h ⟨other, hother, pascal_eq_of_shouty_eq heq⟩

/-- Slots are told apart without a look at their renderings in capitals. -/
theorem checkDistinct_eq (earlier : List Slot) (slot : Slot) :
    slot.checkDistinct earlier = (do
      if (sharing? earlier Slot.name slot).isSome then
        throw (.duplicateName (.slot slot.bindingClass) slot.name)
      if (sharing? earlier (pascal ·.name) slot).isSome then
        throw (.duplicateName (.slot slot.bindingClass) (pascal slot.name))
      if let some first := sharing? earlier Slot.index slot then
        throw (.duplicateIndex slot.bindingClass slot.index first.name slot.name)) := by
  rw [checkDistinct]
  cases hpascal : (sharing? earlier (pascal ·.name) slot).isSome with
  | true => rfl
  | false =>
      rw [sharing?_shouty hpascal]
      rfl

end Slot

namespace VertexInput

theorem any_pascal_eq_any_camel (earlier : List Attribute) (attr : Attribute) :
    (earlier.any fun other => pascal other.name == pascal attr.name) =
      earlier.any fun other => camel other.name == camel attr.name := by
  refine congrArg earlier.any (funext fun other => ?_)
  rw [Bool.eq_iff_iff, beq_iff_eq, beq_iff_eq, pascal_eq_iff_camel_eq]

/-- Attributes are told apart without a look at their Pascal renderings. -/
theorem checkAttributes_eq (owner : String) (earlier attrs : List Attribute) (attr : Attribute) :
    checkAttributes owner earlier (attr :: attrs) = (do
      checkName attr.name
      if earlier.any fun other => other.name == attr.name then
        throw (.invalidVertexLayout owner (.duplicateAttribute attr.name))
      if earlier.any fun other => camel other.name == camel attr.name then
        throw (.duplicateName .attribute s!"{owner}.{camel attr.name}")
      if attr.format.isMatrix then
        throw (.invalidVertexLayout owner (.matrixAttribute attr.name))
      checkAttributes owner (earlier ++ [attr]) attrs) := by
  rw [checkAttributes, any_pascal_eq_any_camel]
  cases hcamel : earlier.any fun other => camel other.name == camel attr.name with
  | true => rfl
  | false => rfl

end VertexInput

/-! ### Names in the targets -/

/-- The names for the slots of a class are distinct in each target. -/
structure Contract.SlotNamesApart (contract : Contract) (bindingClass : BindingClass) : Prop where
  header : ((Header.indexEnumeration contract bindingClass).flatMap
    Header.Declaration.enumerators).Nodup
  module : ((Shader.classConstants contract bindingClass).map Shader.Item.name).Nodup
  bindings : ((Bindings.indexEnum contract bindingClass).variants.map (·.name)).Nodup

/-- The names for the fields of a block are distinct in each target. Besides the header all of them
take a field by the name that its layout has for it. -/
structure Block.FieldNamesApart (block : Block) : Prop where
  header : ∀ slot,
    (Header.Declaration.memberNames (.block ⟨slot, block.layout .metal⟩)).Nodup
  others : ∀ rules, ((block.layout rules).fields.map (·.name)).Nodup

/-- The names for the attributes of a vertex input are distinct in each target. -/
structure VertexInput.AttributeNamesApart (input : VertexInput) : Prop where
  enumerators : ((Header.vertexDeclarations input.layout).flatMap
    Header.Declaration.enumerators).Nodup
  members : ((Header.vertexDeclarations input.layout).flatMap
    Header.Declaration.memberNames).Nodup
  others : (input.layout.attributes.map (·.name)).Nodup

theorem Contract.slotNamesApart {contract : Contract} {bindingClass : BindingClass}
    (h : ((contract.slotsOf bindingClass).map fun slot => pascal slot.name).Nodup) :
    contract.SlotNamesApart bindingClass where
  header := by
    have hinjective : Function.Injective (bindingClass.enumName ++ ·) := fun _ _ heq =>
      (Header.enumName_append_inj heq).2
    have hslots := h.map hinjective
    rw [List.map_map] at hslots
    rw [Header.indexEnumeration, Header.Declaration.flatMap_enumerators_enumerationOf,
      List.map_map]
    exact hslots
  module := by
    rw [Shader.classConstants_eq, List.map_map, List.nodup_iff_pairwise_ne, List.pairwise_map]
    rw [List.nodup_iff_pairwise_ne, List.pairwise_map] at h
    exact h.imp fun hne heq => hne (Slot.of_constantName_eq heq).2
  bindings := by
    rw [Bindings.indexEnum, List.map_map]
    exact h

theorem Block.fieldNamesApart {block : Block}
    (h : (block.fields.map fun field => camel field.name).Nodup) : block.FieldNamesApart where
  header slot := by
    rw [Header.Declaration.memberNames, Header.map_name_fields block .metal camel]
    exact h
  others rules := by
    rw [block.map_name_layout]
    exact nodup_map_of_renderings h

theorem VertexInput.attributeNamesApart {input : VertexInput}
    (h : (input.attributes.map fun attr => camel attr.name).Nodup) :
    input.AttributeNamesApart where
  enumerators := by
    rw [Header.flatMap_enumerators_vertexDeclarations]
    exact Header.nodup_vertexEnumerators (nodup_pascal_iff_camel.mpr h)
  members := by
    rw [Header.flatMap_memberNames_vertexDeclarations]
    exact h
  others := by
    rw [input.map_name_layout]
    exact nodup_map_of_renderings h

/-- The rendering in capitals tells the Pascal rendering, and this and the camel rendering tell each
other. So slots are never refused for their renderings in capitals alone, nor attributes for their
Pascal renderings alone: the checks are the same without them. What is distinct in the rendering
that is checked is distinct in all renderings, and in every target. -/
theorem checked_renderings_suffice :
    (∀ first second, shouty first = shouty second → pascal first = pascal second) ∧
    (∀ first second, pascal first = pascal second ↔ camel first = camel second) ∧
    (∀ (earlier : List Slot) (slot : Slot),
      ((Slot.sharing? earlier (pascal ·.name) slot).isSome = false →
        (Slot.sharing? earlier (shouty ·.name) slot).isSome = false) ∧
      slot.checkDistinct earlier = (do
        if (Slot.sharing? earlier Slot.name slot).isSome then
          throw (.duplicateName (.slot slot.bindingClass) slot.name)
        if (Slot.sharing? earlier (pascal ·.name) slot).isSome then
          throw (.duplicateName (.slot slot.bindingClass) (pascal slot.name))
        if let some first := Slot.sharing? earlier Slot.index slot then
          throw (.duplicateIndex slot.bindingClass slot.index first.name slot.name))) ∧
    (∀ (owner : String) (earlier attrs : List Attribute) (attr : Attribute),
      ((earlier.any fun other => camel other.name == camel attr.name) = false →
        (earlier.any fun other => pascal other.name == pascal attr.name) = false) ∧
      VertexInput.checkAttributes owner earlier (attr :: attrs) = (do
        checkName attr.name
        if earlier.any fun other => other.name == attr.name then
          throw (.invalidVertexLayout owner (.duplicateAttribute attr.name))
        if earlier.any fun other => camel other.name == camel attr.name then
          throw (.duplicateName .attribute s!"{owner}.{camel attr.name}")
        if attr.format.isMatrix then
          throw (.invalidVertexLayout owner (.matrixAttribute attr.name))
        VertexInput.checkAttributes owner (earlier ++ [attr]) attrs)) ∧
    (∀ names : List String, ((names.map pascal).Nodup ↔ (names.map camel).Nodup) ∧
      ((names.map pascal).Nodup → names.Nodup ∧ (names.map shouty).Nodup)) ∧
    (∀ (contract : Contract) (bindingClass : BindingClass),
      ((contract.slotsOf bindingClass).map fun slot => pascal slot.name).Nodup →
        contract.SlotNamesApart bindingClass) ∧
    (∀ block : Block, (block.fields.map fun field => camel field.name).Nodup →
      block.FieldNamesApart) ∧
    ∀ input : VertexInput, (input.attributes.map fun attr => camel attr.name).Nodup →
      input.AttributeNamesApart := by
  refine ⟨fun _ _ => pascal_eq_of_shouty_eq, fun _ _ => pascal_eq_iff_camel_eq, ?_, ?_, ?_,
    fun _ _ => Contract.slotNamesApart, fun _ => Block.fieldNamesApart,
    fun _ => VertexInput.attributeNamesApart⟩
  · exact fun earlier slot => ⟨Slot.sharing?_shouty, Slot.checkDistinct_eq earlier slot⟩
  · refine fun owner earlier attrs attr =>
      ⟨fun h => ?_, VertexInput.checkAttributes_eq owner earlier attrs attr⟩
    rw [VertexInput.any_pascal_eq_any_camel, h]
  · exact fun names => ⟨nodup_pascal_iff_camel,
      fun h => ⟨h.of_map, nodup_shouty_of_pascal h⟩⟩

/-- A number behind an underscore is a word of its own in capitals only, so that the other check
could not be left out in place of this one. -/
theorem numbered_maps_share_pascal :
    pascal "shadow_map2" = pascal "shadow_map_2" ∧
      camel "shadow_map2" = camel "shadow_map_2" ∧
      shouty "shadow_map2" ≠ shouty "shadow_map_2" ∧
      Schema.meshesContract.SlotNamesApart .buffer := by
  obtain ⟨-, hpascal, -, -, -, hslots, -⟩ := checked_renderings_suffice
  have hshared : pascal "shadow_map2" = pascal "shadow_map_2" := by decide +kernel
  exact ⟨hshared, (hpascal _ _).mp hshared, by decide +kernel, hslots _ _ (by decide +kernel)⟩

end ShaderLayout
