import ShaderLayout.Proofs.Header.Names
import ShaderLayout.Proofs.Host.TypeNames

/-!
Which generated names are identifiers. Variants and aliases are Pascal
renderings, members of the header camel renderings of accepted names. None of
them is reserved, and all are identifiers but those of names that start with an
underscore and a digit, which the check of a name lets through.
-/

namespace ShaderLayout

namespace Name

theorem isReserved_eq_false_iff {word : String} :
    isReserved word = false ↔ word ∉ reservedWords := by
  rw [isReserved, ← Bool.not_eq_true, List.contains_iff_mem]

/-- The reserved words stand in order, so that a search by halves finds each of them. -/
theorem pairwise_reservedWords : reservedWords.Pairwise (· < ·) := by
  decide +kernel

end Name

namespace Header

open Declaration

theorem flatMap_memberNames_enumerationOf {name : String} {values : List (String × Nat)} :
    (enumerationOf name values).flatMap memberNames = [] := by
  rw [enumerationOf]
  split <;> rfl

theorem flatMap_memberNames_vertexDeclarations (input : VertexInput) :
    (vertexDeclarations input.layout).flatMap memberNames =
      input.attributes.map fun attr => Name.camel attr.name := by
  rw [vertexDeclarations, List.flatMap_append, List.flatMap_append,
    flatMap_memberNames_enumerationOf, flatMap_memberNames_enumerationOf,
    ← map_name_attributes input Name.camel]
  simp [memberNames]

/-- The members of the header: fields of blocks, then attributes of vertices. -/
theorem flatMap_memberNames_declarations (contract : Contract) :
    (declarations contract).flatMap memberNames =
      contract.blocks.flatMap (fun block => block.fields.map fun field => Name.camel field.name) ++
        contract.vertexInputs.flatMap fun input =>
          input.attributes.map fun attr => Name.camel attr.name := by
  have hnone {α : Type} (items : List α) : (items.flatMap fun _ => ([] : List String)) = [] :=
    List.flatMap_eq_nil_iff.mpr fun _ _ => rfl
  have hblock (block : Block) := map_name_fields block .metal Name.camel
  simp only [declarations, List.flatMap_append, List.flatMap_assoc, List.flatMap_map,
    indexEnumeration, flatMap_memberNames_enumerationOf, hnone, hblock,
    flatMap_memberNames_vertexDeclarations, memberNames, List.nil_append]

end Header

namespace Bindings.Renders

variable {contract : Contract} {bindings : Bindings}

/-- The variants of the enumerations are the renderings of the slots. -/
theorem forall_variants_iff (h : bindings.Renders contract) {motive : String → Prop} :
    (∀ enum ∈ bindings.enums, ∀ variant ∈ enum.variants, motive variant.name) ↔
      ∀ slot ∈ contract.slots, motive (Name.pascal slot.name) := by
  simp only [h.enums, List.forall_mem_map, indexEnum, Contract.mem_slotsOf]
  exact ⟨fun hall slot hslot => hall _ slot.bindingClass.mem_all slot ⟨hslot, rfl⟩,
    fun hall _ _ slot hslot => hall slot hslot.1⟩

end Bindings.Renders

open Name

/-- The variants, aliases and members that are generated for an accepted schema are identifiers
exactly as far as its slots, fields and attributes hide no digit. -/
theorem Schema.generated_names_legal_iff {schema : Schema} {contract : Contract}
    (h : schema.validate = .ok contract) :
    ∃ bindings, Bindings.ofContract contract = .ok bindings ∧
      ((∀ enum ∈ bindings.enums, ∀ variant ∈ enum.variants, isIdentifier variant.name.toList) ↔
        ∀ slot ∈ contract.slots, ¬HidesDigit slot.name) ∧
      ((∀ name ∈ bindings.aliasNames, isIdentifier name.toList) ↔
        ∀ entry ∈ contract.scalarSlots, ¬HidesDigit entry.1.name) ∧
      ((∀ name ∈ (Header.declarations contract).flatMap Header.Declaration.memberNames,
          isIdentifier name.toList) ↔
        (∀ block ∈ contract.blocks, ∀ field ∈ block.fields, ¬HidesDigit field.name) ∧
          ∀ input ∈ contract.vertexInputs, ∀ attr ∈ input.attributes, ¬HidesDigit attr.name) := by
  have hpascal {name : String} (h : isAccepted name) := isIdentifier_pascal_iff_not_hidesDigit h
  have hcamel {name : String} (h : isAccepted name) :=
    (isIdentifier_camel_iff h).trans (hpascal h)
  have hnamed := Schema.wellNamed_of_validate h
  obtain ⟨bindings, hbindings, hrenders⟩ := Bindings.exists_renders h
  refine ⟨bindings, hbindings, ?_, ?_, ?_⟩
  · rw [hrenders.forall_variants_iff (motive := fun name => isIdentifier name.toList)]
    exact forall₂_congr fun slot hslot => hpascal (hnamed.slots slot hslot)
  · rw [hrenders.aliasNames_eq, List.forall_mem_map]
    exact forall₂_congr fun entry hentry =>
      hpascal (Shader.isAccepted_of_mem_scalarSlots hnamed hentry)
  · simp only [Header.flatMap_memberNames_declarations, List.forall_mem_append,
      List.forall_mem_flatMap, List.forall_mem_map]
    refine and_congr (forall₂_congr fun block hblock => ?_)
      (forall₂_congr fun input hinput => ?_)
    · exact forall₂_congr fun field hfield => hcamel ((hnamed.blocks block hblock).2 field hfield)
    · exact forall₂_congr fun attr hattr =>
        hcamel ((hnamed.vertexInputs input hinput).2 attr hattr)

/-- No rendering of an accepted name is empty or reserved. Both are identifiers unless the name
hides a digit, so that the variants, aliases and members that are generated for an accepted schema
are identifiers exactly as far as its slots, fields and attributes hide none. -/
theorem renamed_names_legal_iff (name : String) (h : isAccepted name) :
    (reservedWords.Pairwise (· < ·) ∧
      name ∉ reservedWords ∧ pascal name ∉ reservedWords ∧ camel name ∉ reservedWords) ∧
    (∃ c cs, (pascal name).toList = c :: cs ∧ (camel name).toList = c.toLower :: cs ∧
      ∀ d ∈ c :: c.toLower :: cs, d.isAlphanum) ∧
    (isIdentifier (pascal name).toList ↔ ¬HidesDigit name) ∧
    (isIdentifier (camel name).toList ↔ ¬HidesDigit name) ∧
    ∀ schema : Schema, ∀ contract, schema.validate = .ok contract →
      ∃ bindings, Bindings.ofContract contract = .ok bindings ∧
        ((∀ enum ∈ bindings.enums, ∀ variant ∈ enum.variants, isIdentifier variant.name.toList) ↔
          ∀ slot ∈ contract.slots, ¬HidesDigit slot.name) ∧
        ((∀ name ∈ bindings.aliasNames, isIdentifier name.toList) ↔
          ∀ entry ∈ contract.scalarSlots, ¬HidesDigit entry.1.name) ∧
        ((∀ name ∈ (Header.declarations contract).flatMap Header.Declaration.memberNames,
            isIdentifier name.toList) ↔
          (∀ block ∈ contract.blocks, ∀ field ∈ block.fields, ¬HidesDigit field.name) ∧
            ∀ input ∈ contract.vertexInputs, ∀ attr ∈ input.attributes, ¬HidesDigit attr.name) := by
  have hpascal := isIdentifier_pascal_iff_not_hidesDigit h
  refine ⟨⟨pairwise_reservedWords, ?_⟩, ?_, hpascal, (isIdentifier_camel_iff h).trans hpascal,
    fun schema contract => Schema.generated_names_legal_iff⟩
  · obtain ⟨-, -, -, hname, hpascal, hcamel⟩ := isAccepted_iff.mp h
    exact ⟨isReserved_eq_false_iff.mp hname, isReserved_eq_false_iff.mp hpascal,
      isReserved_eq_false_iff.mp hcamel⟩
  · obtain ⟨c, cs, hchars, hc, hcs⟩ := pascal_spec h
    refine ⟨c, cs, hchars, ?_, ?_⟩
    · rw [toList_camel, ← toList_pascal, hchars, uncapitalize]
    · exact List.forall_mem_cons.mpr
        ⟨hc, List.forall_mem_cons.mpr ⟨isAlphanum_toLower hc, hcs⟩⟩

namespace Schema

/-- A scalar, a slot and a field whose names start with an underscore and a digit. -/
def numbered : Schema where
  name := "Numbered"
  hostRules := .metal
  buffers := [{ name := "_1", index := none, scalar := some .uint, isVertex := false },
    .ofName "_2d"]
  textures := []
  samplers := []
  blocks := [⟨"Plane", "_2d", [⟨"_3rd_row", .float4⟩]⟩]
  vertexInputs := []

def numberedContract : Contract where
  name := "Numbered"
  hostRules := .metal
  slots := [⟨"_1", .buffer, 0, .scalar .uint⟩, ⟨"_2d", .buffer, 1, .block⟩]
  blocks := numbered.blocks
  vertexInputs := []

theorem validate_numbered : numbered.validate = .ok numberedContract := by
  refine validate_eq_ok_iff.mpr ⟨by decide +kernel, ?_⟩
  exact ⟨rfl, rfl, by decide, by decide, rfl, rfl⟩

/-- A variant and an alias `1`, a variant `2d` and a member `3rdRow`. -/
theorem numbered_names_illegal :
    numbered.validate = .ok numberedContract ∧
      (isAccepted "_1" ∧ pascal "_1" = "1" ∧ ¬isIdentifier (pascal "_1").toList) ∧
      ∃ bindings, Bindings.ofContract numberedContract = .ok bindings ∧
        (∃ enum ∈ bindings.enums, ∃ variant ∈ enum.variants, ¬isIdentifier variant.name.toList) ∧
        (∃ name ∈ bindings.aliasNames, ¬isIdentifier name.toList) ∧
        ∃ name ∈ (Header.declarations numberedContract).flatMap Header.Declaration.memberNames,
          ¬isIdentifier name.toList := by
  have haccepted : isAccepted "_1" := by decide +kernel
  have hone : HidesDigit "_1" := ⟨'1', [], by decide, by decide⟩
  have hthird : HidesDigit "_3rd_row" := ⟨'3', "rd_row".toList, by decide +kernel, by decide⟩
  obtain ⟨-, -, hpascal, -, hschemas⟩ := renamed_names_legal_iff "_1" haccepted
  obtain ⟨bindings, hbindings, hvariants, haliases, hmembers⟩ :=
    hschemas numbered numberedContract validate_numbered
  refine ⟨validate_numbered, ⟨haccepted, by decide +kernel, fun h => hpascal.mp h hone⟩, bindings,
    hbindings, ?_, ?_, ?_⟩
  · by_contra! hnone
    exact hvariants.mp hnone _ List.mem_cons_self hone
  · by_contra! hnone
    exact haliases.mp hnone (⟨"_1", .buffer, 0, .scalar .uint⟩, .uint) (by decide) hone
  · by_contra! hnone
    exact (hmembers.mp hnone).1 _ List.mem_cons_self _ List.mem_cons_self hthird

end Schema

end ShaderLayout
