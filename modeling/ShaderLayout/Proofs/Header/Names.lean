import ShaderLayout.Header.Declaration
import ShaderLayout.Proofs.Contract.Bindings

/-!
Names that the header brings into the scope of the file. C has one scope for
types and enumerators, and enumerators are put together from prefixes, renderings
and suffixes. The checks on a schema hold types against one another, apart from
aliases against enumerations of indices; enumerators they never look at. Most
enumerators are told apart by how they are put together; what is left are those
that have the name of a type, and those of different vertices or of a vertex and
a slot.
-/

namespace ShaderLayout

namespace Header

/-! ### Types and enumerators -/

namespace Declaration

/-- The type that is declared. -/
def typeName : Declaration → String
  | .enumeration name _ => name
  | .alias _ name => name
  | .block struct => struct.layout.name
  | .vertex name _ => name

/-- The enumerators that are declared beside the type. -/
def enumerators : Declaration → List String
  | .enumeration _ enumerators => enumerators.map (·.1)
  | _ => []

theorem names_eq (declaration : Declaration) :
    declaration.names = declaration.typeName :: declaration.enumerators := by
  cases declaration <;> rfl

theorem names_perm (declarations : List Declaration) :
    (declarations.flatMap names).Perm
      (declarations.map typeName ++ declarations.flatMap enumerators) := by
  have hnames : names = fun declaration => [declaration.typeName] ++ declaration.enumerators :=
    funext names_eq
  rw [hnames, List.map_eq_flatMap]
  exact (List.flatMap_append_perm _ _ _).symm

variable {name : String} {values : List (String × Nat)}

theorem map_typeName_enumerationOf :
    (enumerationOf name values).map typeName = if values.isEmpty then [] else [name] := by
  rw [enumerationOf]
  split <;> rfl

theorem flatMap_enumerators_enumerationOf :
    (enumerationOf name values).flatMap enumerators = values.map (·.1) := by
  rw [enumerationOf]
  split
  · next hempty =>
      rw [List.isEmpty_iff.mp hempty]
      rfl
  · exact List.flatMap_singleton enumerators _

end Declaration

open Declaration

/-- The classes that have an enumeration of indices. -/
def enumeratedClasses (contract : Contract) : List BindingClass :=
  BindingClass.all.filter fun bindingClass => !(contract.slotsOf bindingClass).isEmpty

/-- The types that are declared besides the enumerations of indices. -/
def memberTypeNames (contract : Contract) : List String :=
  contract.scalarSlots.map (fun entry => Name.pascal entry.1.name) ++
    (contract.blocks.map (·.name) ++ contract.vertexInputs.flatMap VertexInput.typeNames)

/-- The enumerators for the slots of a class. -/
def slotEnumerators (contract : Contract) (bindingClass : BindingClass) : List String :=
  (contract.slotsOf bindingClass).map fun slot => bindingClass.enumName ++ Name.pascal slot.name

/-- The enumerator of the offset of an attribute. -/
def offsetName (vertex attr : String) : String :=
  vertex ++ "Layout" ++ Name.pascal attr ++ "Offset"

/-- The enumerators for the layout of a vertex: offsets and the stride. -/
def layoutEnumerators (input : VertexInput) : List String :=
  input.attributes.map (fun attr => offsetName input.name attr.name) ++
    [input.name ++ "LayoutStride"]

/-- The enumerators for a vertex: locations and the layout. -/
def vertexEnumerators (input : VertexInput) : List String :=
  input.attributes.map (fun attr => locationName input.name attr.name) ++ layoutEnumerators input

variable {contract : Contract}

theorem map_name_fields (block : Block) (rules : LayoutRules) (render : String → String) :
    (block.layout rules).fields.map (fun field => render field.name) =
      block.fields.map fun field => render field.name := by
  have hrender := congrArg (List.map render) (block.map_name_layout rules)
  rwa [List.map_map, List.map_map] at hrender

theorem map_name_attributes (input : VertexInput) (render : String → String) :
    input.layout.attributes.map (fun attr => render attr.name) =
      input.attributes.map fun attr => render attr.name := by
  have hrender := congrArg (List.map render) input.map_name_layout
  rwa [List.map_map, List.map_map] at hrender

theorem map_typeName_indexEnumerations (classes : List BindingClass) :
    (classes.flatMap (indexEnumeration contract)).map typeName =
      (classes.filter fun bindingClass => !(contract.slotsOf bindingClass).isEmpty).map
        BindingClass.enumName := by
  induction classes with
  | nil => rfl
  | cons bindingClass classes ih =>
      rw [List.flatMap_cons, List.map_append, ih, indexEnumeration, map_typeName_enumerationOf,
        List.isEmpty_map, List.filter_cons]
      cases (contract.slotsOf bindingClass).isEmpty <;> rfl

theorem map_typeName_vertexDeclarations {input : VertexInput} (h : input.attributes ≠ []) :
    (vertexDeclarations input.layout).map typeName =
      [input.name ++ "Attribute", input.name ++ "Layout", input.name] := by
  have hattributes : input.layout.attributes.isEmpty = false := by
    cases hcase : input.attributes with
    | nil => exact absurd hcase h
    | cons attr attrs =>
        rw [VertexInput.layout, hcase]
        rfl
  rw [vertexDeclarations, List.map_append, List.map_append, map_typeName_enumerationOf,
    map_typeName_enumerationOf, List.isEmpty_map, hattributes]
  cases input.layout.attributes <;> rfl

theorem map_typeName_declarations (h : ∀ input ∈ contract.vertexInputs, input.attributes ≠ []) :
    ((declarations contract).map typeName).Perm
      ((enumeratedClasses contract).map BindingClass.enumName ++ memberTypeNames contract) := by
  have hvertices : ((contract.vertexInputs.flatMap fun input =>
      vertexDeclarations input.layout).map typeName).Perm
        (contract.vertexInputs.flatMap VertexInput.typeNames) := by
    rw [List.map_flatMap]
    refine List.Perm.flatMap_left _ fun input hinput => ?_
    rw [map_typeName_vertexDeclarations (h input hinput)]
    exact List.perm_append_singleton input.name [_, _]
  rw [declarations, List.map_append, List.map_append, List.map_append,
    map_typeName_indexEnumerations, List.map_map, List.map_map, List.append_assoc,
    List.append_assoc]
  exact ((hvertices.append_left _).append_left _).append_left _

theorem flatMap_enumerators_vertexDeclarations (input : VertexInput) :
    (vertexDeclarations input.layout).flatMap enumerators = vertexEnumerators input := by
  rw [vertexDeclarations, List.flatMap_append, List.flatMap_append,
    flatMap_enumerators_enumerationOf, flatMap_enumerators_enumerationOf, List.map_append,
    List.map_map, List.map_map, List.append_assoc, List.append_assoc, vertexEnumerators,
    layoutEnumerators, ← map_name_attributes input (locationName input.name),
    ← map_name_attributes input (offsetName input.name)]
  rfl

theorem flatMap_enumerators_declarations (contract : Contract) :
    (declarations contract).flatMap enumerators =
      BindingClass.all.flatMap (slotEnumerators contract) ++
        contract.vertexInputs.flatMap vertexEnumerators := by
  have hclass (bindingClass : BindingClass) :
      (indexEnumeration contract bindingClass).flatMap enumerators =
        slotEnumerators contract bindingClass := by
    rw [indexEnumeration, flatMap_enumerators_enumerationOf, List.map_map]
    rfl
  have hnone {α : Type} (items : List α) : (items.flatMap fun _ => ([] : List String)) = [] :=
    List.flatMap_eq_nil_iff.mpr fun _ _ => rfl
  simp only [declarations, List.flatMap_append, List.flatMap_assoc, List.flatMap_map, hclass,
    flatMap_enumerators_vertexDeclarations, enumerators, hnone, List.append_nil]

/-! ### Enumerators told apart -/

theorem head?_append {text rest : String} (h : text.toList ≠ []) :
    (text ++ rest).toList.head? = text.toList.head? := by
  rw [String.toList_append, List.head?_append_of_ne_nil _ h]

theorem getLast?_append {text rest : String} (h : rest.toList ≠ []) :
    (text ++ rest).toList.getLast? = rest.toList.getLast? := by
  rw [String.toList_append, List.getLast?_append_of_ne_nil _ h]

/-- The classes of slots have different letters. -/
theorem enumName_append_inj {first second : BindingClass} {name other : String}
    (h : first.enumName ++ name = second.enumName ++ other) : first = second ∧ name = other := by
  have hnonempty (bindingClass : BindingClass) : bindingClass.enumName.toList ≠ [] := by
    cases bindingClass <;> decide +kernel
  have hhead : first.enumName.toList.head? = second.enumName.toList.head? := by
    rw [← head?_append (hnonempty first), h, head?_append (hnonempty second)]
  have hclass : first = second := by
    revert hhead
    cases first <;> cases second <;> decide +kernel
  subst hclass
  exact ⟨rfl, (String.append_right_inj _).mp h⟩

theorem nodup_slotEnumerators (h : contract.WellNamed) :
    (BindingClass.all.flatMap (slotEnumerators contract)).Nodup := by
  rw [List.nodup_flatMap]
  constructor
  · intro bindingClass _
    have hinjective : Function.Injective (bindingClass.enumName ++ ·) := fun _ _ heq =>
      (enumName_append_inj heq).2
    have hslots := (h.nodup_pascal_slotsOf bindingClass).map hinjective
    rwa [List.map_map] at hslots
  · have hclasses : BindingClass.all.Pairwise (· ≠ ·) := by decide
    refine hclasses.imp fun hne name hfirst hsecond => hne ?_
    obtain ⟨_, -, rfl⟩ := List.mem_map.mp hfirst
    obtain ⟨_, -, heq⟩ := List.mem_map.mp hsecond
    exact (enumName_append_inj heq).1.symm

theorem ne_enumName_of_mem_slotEnumerators (h : contract.WellNamed) {bindingClass : BindingClass}
    {name : String} (hname : name ∈ slotEnumerators contract bindingClass)
    (other : BindingClass) : name ≠ other.enumName := by
  obtain ⟨slot, hslot, rfl⟩ := List.mem_map.mp hname
  intro heq
  obtain ⟨-, hempty⟩ := enumName_append_inj (heq.trans String.append_empty.symm)
  obtain ⟨c, cs, hchars, -⟩ :=
    Name.pascal_spec (h.slots slot (Contract.mem_slotsOf.mp hslot).1)
  rw [hempty] at hchars
  cases hchars

theorem exists_of_mem_layoutEnumerators {input : VertexInput} {name : String}
    (h : name ∈ layoutEnumerators input) : ∃ rest, name = input.name ++ "Layout" ++ rest := by
  rcases List.mem_append.mp h with hoffset | hstride
  · obtain ⟨attr, -, rfl⟩ := List.mem_map.mp hoffset
    exact ⟨Name.pascal attr.name ++ "Offset", String.append_assoc⟩
  · cases List.mem_singleton.mp hstride
    have hsplit : "LayoutStride" = "Layout" ++ "Stride" := by decide +kernel
    refine ⟨"Stride", ?_⟩
    rw [hsplit, String.append_assoc]

theorem ne_enumName_of_mem_vertexEnumerators {input : VertexInput} {name : String}
    (h : name ∈ vertexEnumerators input) (bindingClass : BindingClass) :
    name ≠ bindingClass.enumName := by
  have hletters : 'A' ∉ bindingClass.enumName.toList ∧ 'L' ∉ bindingClass.enumName.toList := by
    cases bindingClass <;> decide +kernel
  rintro rfl
  rcases List.mem_append.mp h with hlocation | hlayout
  · obtain ⟨attr, -, heq⟩ := List.mem_map.mp hlocation
    refine hletters.1 ?_
    rw [← heq, locationName]
    simp
  · obtain ⟨rest, heq⟩ := exists_of_mem_layoutEnumerators hlayout
    refine hletters.2 ?_
    rw [heq]
    simp

theorem nodup_vertexEnumerators {input : VertexInput}
    (h : (input.attributes.map fun attr => Name.pascal attr.name).Nodup) :
    (vertexEnumerators input).Nodup := by
  have hlocations : (input.attributes.map fun attr => locationName input.name attr.name).Nodup := by
    have hinjective : Function.Injective (input.name ++ "Attribute" ++ ·) := fun _ _ =>
      (String.append_right_inj _).mp
    have hnames := h.map hinjective
    rwa [List.map_map] at hnames
  have hoffsets : (input.attributes.map fun attr => offsetName input.name attr.name).Nodup := by
    have hinjective : Function.Injective (input.name ++ "Layout" ++ · ++ "Offset") := fun _ _ heq =>
      (String.append_right_inj _).mp ((String.append_left_inj _).mp heq)
    have hnames := h.map hinjective
    rwa [List.map_map] at hnames
  refine List.nodup_append.mpr ⟨hlocations, List.nodup_append.mpr ⟨hoffsets,
    List.nodup_singleton _, ?_⟩, ?_⟩
  · intro offset hoffset stride hstride heq
    obtain ⟨attr, -, rfl⟩ := List.mem_map.mp hoffset
    cases List.mem_singleton.mp hstride
    have hlast := congrArg (·.toList.getLast?) heq
    simp only [offsetName] at hlast
    rw [getLast?_append (by decide +kernel), getLast?_append (by decide +kernel)] at hlast
    exact absurd hlast (by decide +kernel)
  · rintro _ hlocation name hlayout rfl
    obtain ⟨attr, -, heq⟩ := List.mem_map.mp hlocation
    obtain ⟨rest, rfl⟩ := exists_of_mem_layoutEnumerators hlayout
    rw [locationName, String.append_assoc, String.append_assoc, String.append_right_inj] at heq
    have hhead := congrArg (·.toList.head?) heq
    rw [head?_append (by decide +kernel), head?_append (by decide +kernel)] at hhead
    exact absurd hhead (by decide +kernel)

/-! ### What clashes -/

/-- What the checks on a schema leave open: an alias with the name of an enumeration of indices, an
enumerator with the name of a type, and an enumerator for a vertex that is also one for a slot or
for another vertex. -/
structure Clear (contract : Contract) : Prop where
  aliases : ∀ entry ∈ contract.scalarSlots, ∀ bindingClass ∈ enumeratedClasses contract,
    Name.pascal entry.1.name ≠ bindingClass.enumName
  slots : ∀ name ∈ BindingClass.all.flatMap (slotEnumerators contract),
    name ∉ memberTypeNames contract
  vertices : ∀ name ∈ contract.vertexInputs.flatMap vertexEnumerators,
    name ∉ memberTypeNames contract ∧ name ∉ BindingClass.all.flatMap (slotEnumerators contract)
  verticesApart : contract.vertexInputs.Pairwise fun first second =>
    (vertexEnumerators first).Disjoint (vertexEnumerators second)

variable {schema : Schema}

theorem memberTypeNames_eq (hyields : schema.Yields contract) :
    memberTypeNames contract =
      contract.scalarSlots.map (fun entry => Name.pascal entry.1.name) ++ schema.typeNames := by
  rw [memberTypeNames, hyields.blocks, hyields.vertexInputs]
  rfl

theorem nodup_types_iff (hwell : schema.WellFormed) (hyields : schema.Yields contract) :
    ((enumeratedClasses contract).map BindingClass.enumName ++ memberTypeNames contract).Nodup ↔
      ∀ entry ∈ contract.scalarSlots, ∀ bindingClass ∈ enumeratedClasses contract,
        Name.pascal entry.1.name ≠ bindingClass.enumName := by
  have hclasses : ((enumeratedClasses contract).map BindingClass.enumName).Nodup :=
    BindingClass.nodup_enumNames.sublist (List.filter_sublist.map _)
  rw [memberTypeNames_eq hyields]
  exact hwell.nodup_typeNames_iff hyields hclasses (List.Sublist.refl _)

theorem nodup_enumerators_iff (hwell : schema.WellFormed) (hyields : schema.Yields contract) :
    (BindingClass.all.flatMap (slotEnumerators contract) ++
        contract.vertexInputs.flatMap vertexEnumerators).Nodup ↔
      (∀ name ∈ contract.vertexInputs.flatMap vertexEnumerators,
        name ∉ BindingClass.all.flatMap (slotEnumerators contract)) ∧
      contract.vertexInputs.Pairwise fun first second =>
        (vertexEnumerators first).Disjoint (vertexEnumerators second) := by
  have hvertices : ∀ input ∈ contract.vertexInputs, (vertexEnumerators input).Nodup := by
    intro input hinput
    have hcamel := (hwell.vertexInputs input (hyields.vertexInputs ▸ hinput)).renderings
    refine nodup_vertexEnumerators ?_
    rw [List.nodup_iff_pairwise_ne, List.pairwise_map] at hcamel ⊢
    exact hcamel.imp fun hne heq => hne (Name.camel_eq_of_pascal_eq heq)
  rw [List.nodup_append, and_iff_right (nodup_slotEnumerators (hyields.wellNamed hwell)),
    List.nodup_flatMap, and_iff_right hvertices, and_comm]
  refine and_congr ?_ Iff.rfl
  constructor
  · intro hclear name hname hslot
    exact hclear name hslot name hname rfl
  · rintro hclear _ hslot name hname rfl
    exact hclear _ hname hslot

/-- The names of the header are distinct exactly where nothing clashes that is left open. -/
theorem nodup_names_iff (hwell : schema.WellFormed) (hyields : schema.Yields contract) :
    ((declarations contract).flatMap names).Nodup ↔ Clear contract := by
  have hattributes : ∀ input ∈ contract.vertexInputs, input.attributes ≠ [] := fun input hinput =>
    (hwell.vertexInputs input (hyields.vertexInputs ▸ hinput)).nonempty
  have hnamed := hyields.wellNamed hwell
  have henumerators : ∀ name ∈ BindingClass.all.flatMap (slotEnumerators contract) ++
      contract.vertexInputs.flatMap vertexEnumerators,
      ∀ bindingClass : BindingClass, name ≠ bindingClass.enumName := by
    simp only [List.forall_mem_append, List.forall_mem_flatMap]
    exact ⟨fun _ _ _ => ne_enumName_of_mem_slotEnumerators hnamed,
      fun _ _ _ => ne_enumName_of_mem_vertexEnumerators⟩
  have hperm := (names_perm (declarations contract)).trans
    ((map_typeName_declarations hattributes).append_right _)
  rw [hperm.nodup_iff, flatMap_enumerators_declarations, List.nodup_append,
    nodup_types_iff hwell hyields, nodup_enumerators_iff hwell hyields]
  constructor
  · rintro ⟨haliases, ⟨hslots, hvertices⟩, hapart⟩
    have hfree {name : String}
        (hname : name ∈ BindingClass.all.flatMap (slotEnumerators contract) ++
          contract.vertexInputs.flatMap vertexEnumerators) : name ∉ memberTypeNames contract :=
      fun hmem => hapart name (List.mem_append_right _ hmem) name hname rfl
    exact ⟨haliases, fun name hname => hfree (List.mem_append_left _ hname),
      fun name hname => ⟨hfree (List.mem_append_right _ hname), hslots name hname⟩, hvertices⟩
  · rintro ⟨haliases, hslots, hvertices, hinputs⟩
    refine ⟨haliases, ⟨fun name hname => (hvertices name hname).2, hinputs⟩, ?_⟩
    rintro _ htype name hname rfl
    rcases List.mem_append.mp htype with henum | hmember
    · obtain ⟨bindingClass, -, heq⟩ := List.mem_map.mp henum
      exact henumerators _ hname bindingClass heq.symm
    · rcases List.mem_append.mp hname with hslot | hvertex
      · exact hslots _ hslot hmember
      · exact (hvertices _ hvertex).1 hmember

theorem nodup_memberNames (hwell : schema.WellFormed) (hyields : schema.Yields contract) :
    ∀ declaration ∈ declarations contract, declaration.memberNames.Nodup := by
  have henum {name : String} {values : List (String × Nat)} :
      ∀ declaration ∈ enumerationOf name values, declaration.memberNames.Nodup := by
    intro declaration hmem
    rw [enumerationOf] at hmem
    split at hmem
    · cases hmem
    · cases List.mem_singleton.mp hmem
      exact List.nodup_nil
  simp only [declarations, List.forall_mem_append, List.forall_mem_flatMap, List.forall_mem_map]
  refine ⟨⟨⟨fun bindingClass _ => henum, fun entry _ => List.nodup_nil⟩, fun block hblock => ?_⟩,
    fun input hinput => ?_⟩
  · have hwellBlock := hwell.blocks block (hyields.blocks ▸ hblock)
    have hmembers :
        ((block.layout .metal).fields.map fun field => Name.camel field.name).Nodup := by
      rw [map_name_fields]
      exact hwellBlock.renderings
    exact hmembers
  · have hwellInput := hwell.vertexInputs input (hyields.vertexInputs ▸ hinput)
    have hmembers : (input.layout.attributes.map fun attr => Name.camel attr.name).Nodup := by
      rw [map_name_attributes]
      exact hwellInput.renderings
    simp only [vertexDeclarations, List.forall_mem_append, List.forall_mem_singleton]
    refine ⟨⟨henum, henum⟩, ?_⟩
    rw [memberNames, List.map_map]
    exact hmembers

end Header

namespace Schema

/-- The names in the header of an accepted contract are distinct exactly where nothing clashes that
the checks leave open; the members of a structure always are. -/
theorem header_names_apart_iff (schema : Schema) (contract : Contract)
    (h : schema.validate = .ok contract) :
    (((Header.declarations contract).flatMap Header.Declaration.names).Nodup ↔
        Header.Clear contract) ∧
      ∀ declaration ∈ Header.declarations contract, declaration.memberNames.Nodup := by
  obtain ⟨hwell, hyields⟩ := validate_eq_ok_iff.mp h
  exact ⟨Header.nodup_names_iff hwell hyields, Header.nodup_memberNames hwell hyields⟩

/-- A scalar and a block with the names of an enumeration and of an enumerator, and two vertices
that share an enumerator. -/
def ambiguous : Schema where
  name := "Ambiguous"
  hostRules := .metal
  buffers := [.ofName "camera",
    { name := "buffer_index", index := none, scalar := some .uint, isVertex := false },
    { name := "points", index := none, scalar := none, isVertex := true }]
  textures := []
  samplers := []
  blocks := [⟨"BufferIndexCamera", "camera", [⟨"position", .float4⟩]⟩]
  vertexInputs := [⟨"M", "points", none, [⟨"x_attribute_y", .float3⟩]⟩,
    ⟨"MAttributeX", "points", none, [⟨"y", .float3⟩]⟩]

def ambiguousContract : Contract where
  name := "Ambiguous"
  hostRules := .metal
  slots := [⟨"camera", .buffer, 0, .block⟩, ⟨"buffer_index", .buffer, 1, .scalar .uint⟩,
    ⟨"points", .buffer, 2, .vertex⟩]
  blocks := ambiguous.blocks
  vertexInputs := ambiguous.vertexInputs

theorem validate_ambiguous : ambiguous.validate = .ok ambiguousContract := by
  refine validate_eq_ok_iff.mpr ⟨by decide +kernel, ?_⟩
  exact ⟨rfl, rfl, by decide, by decide, rfl, rfl⟩

/-- Three names are declared twice: that of the enumeration, of an enumerator for a slot, and of one
for a vertex. -/
theorem ambiguous_names_clash :
    ambiguous.validate = .ok ambiguousContract ∧
      ¬((Header.declarations ambiguousContract).flatMap Header.Declaration.names).Nodup ∧
      (∀ name ∈ ["BufferIndex", "BufferIndexCamera", "MAttributeXAttributeY"],
        ((Header.declarations ambiguousContract).flatMap Header.Declaration.names).count name = 2) ∧
      ∀ declaration ∈ Header.declarations ambiguousContract, declaration.memberNames.Nodup := by
  obtain ⟨hnames, hmembers⟩ := header_names_apart_iff ambiguous ambiguousContract validate_ambiguous
  refine ⟨validate_ambiguous, fun hnodup => ?_, by decide +kernel, hmembers⟩
  have hfree := (hnames.mp hnodup).slots "BufferIndexCamera" (by decide +kernel)
  exact hfree (by decide +kernel)

end Schema

end ShaderLayout
