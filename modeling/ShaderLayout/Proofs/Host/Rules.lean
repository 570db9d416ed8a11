import ShaderLayout.Proofs.Host.Tables
import ShaderLayout.Proofs.Portability.Agreement
import ShaderLayout.Target.Text

/-!
The rules of the host in the text of its bindings. Under different rules a
vector may take more bytes of a block, but the text tells only where fields lie
and which host types they have. Where two rule sets agree on the offsets and the
size of a block, its structure has one text under both of them. So bindings of a
portable contract name the rules of their host, and apart from that one line do
not depend on them.
-/

namespace ShaderLayout

open Text Bindings

namespace Bindings

/-- Structures with the same members and slot, whose layouts a compiler would show alike. -/
structure BlockStruct.Alike (first second : BlockStruct) : Prop where
  observed : first.layout.observed = second.layout.observed
  slot : first.slot = second.slot
  members : first.members = second.members

/-- The text of a structure tells what a compiler would show of the layout, and nothing more. -/
theorem BlockStruct.Alike.blockLines_eq {first second : BlockStruct} (h : first.Alike second) :
    blockLines first = blockLines second := by
  have hname : first.layout.name = second.layout.name := congrArg ObservedLayout.block h.observed
  have hsize : first.layout.size = second.layout.size := congrArg ObservedLayout.size h.observed
  have hfields {α : Type} (tell : ObservedField → α) :
      first.layout.fields.map (fun field => tell ⟨field.name, field.offset⟩) =
        second.layout.fields.map fun field => tell ⟨field.name, field.offset⟩ := by
    have hmap := congrArg (fun observed => observed.fields.map tell) h.observed
    simpa only [BlockLayout.observed, List.map_map, Function.comp_def] using hmap
  have hoffsets := hfields fun field => (field.name, field.offset)
  have hrows := hfields fun field =>
    s!"    (\"{field.name}\", ::core::mem::offset_of!({second.layout.name}, {field.name})),"
  simp only at hoffsets hrows
  simp only [blockLines, hname, hsize, h.slot, h.members, hoffsets, hrows]

/-- Bindings that tell the same of all their types, whatever the rules of the host are. -/
structure Alike (first second : Bindings) : Prop where
  enums : first.enums = second.enums
  aliases : first.aliases = second.aliases
  blocks : List.Forall₂ BlockStruct.Alike first.blocks second.blocks
  vertices : first.vertices = second.vertices

/-- The lines in front of the rules of the host. -/
def linesBefore (generation : Generation) : List String :=
  paragraph generation.banner ++ schemaLines generation ++ ["/// host 端结构体使用的对齐规则"]

/-- The lines behind the rules of the host. -/
def linesBehind (bindings : Bindings) : List String :=
  "" :: (bindings.enums.flatMap enumLines ++
    bindings.aliases.flatMap aliasLines ++
    bindings.blocks.flatMap blockLines ++
    bindings.vertices.flatMap vertexLines ++
    listMacro "for_each_shader_block" "数据块" (bindings.blocks.map (·.layout.name)) ++
    listMacro "for_each_vertex_input" "顶点布局" (bindings.vertices.map (·.layout.name)))

theorem lines_eq (generation : Generation) (bindings : Bindings) :
    lines generation bindings =
      linesBefore generation ++ rulesLine bindings.hostRules :: linesBehind bindings := by
  simp only [lines, linesBefore, linesBehind, paragraph, List.append_assoc, List.cons_append,
    List.nil_append]

theorem Alike.linesBehind_eq {first second : Bindings} (h : first.Alike second) :
    linesBehind first = linesBehind second := by
  have hlines : first.blocks.map blockLines = second.blocks.map blockLines :=
    map_eq_map_of_forall₂ (h.blocks.imp fun _ _ halike => halike.blockLines_eq)
  have hnames : first.blocks.map (·.layout.name) = second.blocks.map (·.layout.name) :=
    map_eq_map_of_forall₂ (h.blocks.imp fun _ _ halike =>
      congrArg ObservedLayout.block halike.observed)
  simp only [linesBehind, List.flatMap_def, h.enums, h.aliases, h.vertices, hlines, hnames]

end Bindings

variable {first second : LayoutRules}

/-! ### Bindings under rules that agree -/

theorem Block.AgreesUnder.observed_eq {block : Block} (h : block.AgreesUnder first second) :
    (block.layout first).observed = (block.layout second).observed := by
  have hfields := FieldLayout.map_observed_of_map_site h.map_site
  rw [BlockLayout.observed, BlockLayout.observed, h.size]
  exact congrArg (ObservedLayout.mk block.name _) hfields

/-- Members are placed by the sizes of host types, which no rule set changes. -/
theorem Block.AgreesUnder.blockMembers_eq {block : Block} (h : block.AgreesUnder first second) :
    blockMembers (block.layout first) = blockMembers (block.layout second) := by
  have hplaced := congrArg
    (List.map fun place => PlacedField.mk place.1.name place.1.type place.2) h.map_site
  rw [List.map_map, List.map_map] at hplaced
  rw [blockMembers, blockMembers, h.size]
  exact congrArg (Member.placeFrom _ 0 0) hplaced

theorem Block.AgreesUnder.exists_alike {block : Block} {struct : BlockStruct}
    (h : block.AgreesUnder first second) (hstruct : blockStruct first block = .ok struct) :
    ∃ other, blockStruct second block = pure other ∧ struct.Alike other := by
  obtain ⟨members, hmembers, heq⟩ := bind_eq_ok_iff.mp hstruct
  cases heq
  refine ⟨⟨block.layout second, Name.pascal block.slot, members⟩, ?_, h.observed_eq, rfl, rfl⟩
  exact bind_eq_ok_iff.mpr ⟨members, h.blockMembers_eq ▸ hmembers, rfl⟩

/-- Bindings under one rule set stand for those under another that agrees with it on all blocks. -/
theorem Bindings.exists_alike {contract : Contract} {bindings : Bindings}
    (hbindings : ofContract contract = .ok bindings) (rules : LayoutRules)
    (h : ∀ block ∈ contract.blocks, block.AgreesUnder contract.hostRules rules) :
    ∃ others, ofContract { contract with hostRules := rules } = .ok others ∧
      others.hostRules = rules ∧ bindings.Alike others := by
  obtain ⟨structs, hstructs, hrest⟩ := bind_eq_ok_iff.mp hbindings
  obtain ⟨vertices, hvertices, heq⟩ := bind_eq_ok_iff.mp hrest
  cases heq
  have hagree := (List.forall₂_and_left _ _).mpr ⟨h, mapM_eq_ok_iff.mp hstructs⟩
  obtain ⟨others, hothers, halike⟩ := exists_mapM_eq_pure <| hagree.flip.imp
    fun _ _ hblock => hblock.1.exists_alike hblock.2
  refine ⟨_, bind_eq_ok_iff.mpr ⟨others, hothers, bind_eq_ok_iff.mpr ⟨vertices, hvertices, rfl⟩⟩,
    rfl, rfl, rfl, halike, rfl⟩

/-- Bindings of a portable contract differ under different rules of the host in the one line that
names the rules. -/
theorem Schema.host_rules_change_one_line (schema : Schema) (contract : Contract)
    (hvalid : schema.validate = .ok contract)
    (hportable : contract.checkPortability [.metal, .wgsl] = .ok ())
    (schemaName : String) (schemaText : Option String) :
    ∃ before behind : List String, ∀ rules,
      Target.rust.text ⟨{ contract with hostRules := rules }, schemaName, schemaText⟩ =
        .ok (unlines (before ++ rulesLine rules :: behind)) := by
  obtain ⟨bindings, hbindings, -⟩ := exists_renders hvalid
  have hmem (rules : LayoutRules) : rules ∈ [LayoutRules.metal, .wgsl] := by
    cases rules <;> decide
  have hagrees := (Contract.checkPortability_eq_ok_iff contract _).mp hportable
  refine ⟨linesBefore ⟨contract, schemaName, schemaText⟩, linesBehind bindings, fun rules => ?_⟩
  obtain ⟨others, hothers, hrules, halike⟩ := exists_alike hbindings rules
    fun block hblock => hagrees block hblock _ (hmem _) _ (hmem _)
  refine bind_eq_ok_iff.mpr ⟨others, hothers, ?_⟩
  rw [lines_eq, hrules, ← halike.linesBehind_eq]
  rfl

/-- The vector and the matrix of a surface have different sizes under the two rule sets. -/
theorem Schema.surfaces_change_one_line :
    surfaces.validate = .ok surfacesContract ∧
      surfacesContract.checkPortability [.metal, .wgsl] = .ok () ∧
      Block.surface.layout .metal ≠ Block.surface.layout .wgsl ∧
      rulesLine .metal ≠ rulesLine .wgsl ∧
      ∃ before behind : List String, ∀ rules,
        Target.rust.text ⟨{ surfacesContract with hostRules := rules }, "surfaces.toml", none⟩ =
          .ok (unlines (before ++ rulesLine rules :: behind)) := by
  have hportable : surfacesContract.checkPortability [.metal, .wgsl] = .ok () :=
    (Contract.checkPortability_eq_ok_iff _ _).mpr (Contract.surfaces_agreesUnder _)
  refine ⟨validate_surfaces, hportable, by decide, by decide, ?_⟩
  exact host_rules_change_one_line surfaces surfacesContract validate_surfaces hportable
    "surfaces.toml" none

end ShaderLayout
