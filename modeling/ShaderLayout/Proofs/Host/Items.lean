import ShaderLayout.Bindings.Printer
import ShaderLayout.Proofs.Host.TypeNames

/-!
Items in the text of the bindings. An item has a head and, between braces, a
body one step to the right. Enumerations and structures are told apart by their
names, and so are the items that belong to them: every head stands in the text
once, and the body behind it is the one that was written for it.
-/

namespace ShaderLayout

namespace Text

/-- Moves a line one step back to the left. -/
def unindent (line : String) : String :=
  String.ofList (line.toList.drop 4)

/-- The lines between the braces behind the first head of that wording. -/
def bodyOf (head : String) (lines : List String) : List String :=
  (((lines.dropWhile (· != head ++ " \x7b")).drop 1).takeWhile (· != "\x7d")).map unindent

theorem unindent_indent (line : String) : unindent (indent line) = line := by
  rw [indent]
  split
  · next hempty =>
      rw [String.isEmpty_iff.mp hempty]
      rfl
  · rw [unindent, String.toList_append]
    exact String.ofList_toList

/-- Lines one step to the right close no braces. -/
theorem indent_ne_brace (line : String) : indent line ≠ "\x7d" := by
  rw [indent]
  split
  · next hempty =>
      rw [String.isEmpty_iff.mp hempty]
      decide
  · intro heq
    have hhead := congrArg (·.toList.head?) heq
    simp at hhead

variable {head : String} {body before after lines : List String}

theorem bodyOf_append (h : head ++ " \x7b" ∉ before) :
    bodyOf head (before ++ (braced head body "" ++ after)) = body := by
  have hbefore : ∀ line ∈ before, (line != head ++ " \x7b") = true := fun line hline =>
    bne_iff_ne.mpr fun heq => h (heq ▸ hline)
  have hbody : ∀ line ∈ body.map indent, (line != "\x7d") = true :=
    List.forall_mem_map.mpr fun line _ => bne_iff_ne.mpr (indent_ne_brace line)
  rw [bodyOf, List.dropWhile_append_of_pos hbefore]
  have hdrop : (braced head body "" ++ after).dropWhile (· != head ++ " \x7b") =
      braced head body "" ++ after := by
    simp [braced]
  have htake : ((braced head body "" ++ after).drop 1).takeWhile (· != "\x7d") =
      body.map indent := by
    rw [braced]
    simp [List.takeWhile_append_of_pos hbody]
  rw [hdrop, htake, List.map_map]
  exact (List.map_congr_left fun line _ => unindent_indent line).trans (List.map_id' body)

theorem bodyOf_braced (head : String) (body : List String) :
    bodyOf head (braced head body "") = body := by
  have hnone : head ++ " \x7b" ∉ ([] : List String) := List.not_mem_nil
  rw [← List.append_nil (braced head body ""), ← List.nil_append (braced head body "" ++ [])]
  exact bodyOf_append hnone

/-- A line at the margin is not between braces. -/
theorem notMem_braced {line : String} (hmargin : line.toList.head?.any (· ∉ [' ', '\x7d']))
    (hhead : line ≠ head ++ " \x7b") {tail : String} : line ∉ braced head body tail := by
  intro hmem
  rcases List.mem_append.mp hmem with hmem | hlast
  · rcases List.mem_cons.mp hmem with heq | hbody
    · exact hhead heq
    · obtain ⟨inner, -, rfl⟩ := List.mem_map.mp hbody
      rw [indent] at hmargin
      split at hmargin
      · next hempty =>
          rw [String.isEmpty_iff.mp hempty] at hmargin
          cases hmargin
      · simp at hmargin
  · rw [List.mem_singleton.mp hlast] at hmargin
    simp at hmargin

/-- A head of a kind that the text has no two alike of finds the body that stands behind it. -/
theorem bodyOf_of_infix {isHead : String → Bool} (hnodup : (lines.filter isHead).Nodup)
    (hhead : isHead (head ++ " \x7b")) (h : braced head body "" <:+: lines) :
    bodyOf head lines = body := by
  obtain ⟨before, after, rfl⟩ := h
  rw [List.append_assoc]
  refine bodyOf_append fun hmem => ?_
  rw [List.filter_append, List.filter_append, List.append_assoc, List.nodup_append] at hnodup
  refine hnodup.2.2 _ (List.mem_filter.mpr ⟨hmem, hhead⟩) _ ?_ rfl
  exact List.mem_append_left _ (List.mem_filter.mpr ⟨List.mem_cons_self, hhead⟩)

end Text

namespace Bindings

open Text

/-! ### Heads of items -/

theorem takeWhile_append_blank {word : List Char} (h : ' ' ∉ word) (rest : List Char) :
    (word ++ ' ' :: rest).takeWhile (· != ' ') = word := by
  have hword : ∀ c ∈ word, (c != ' ') = true := by
    rintro c hc
    rw [bne_iff_ne]
    rintro rfl
    exact h hc
  rw [List.takeWhile_append_of_pos hword]
  simp

/-- The items that belong to a type. -/
inductive ItemKind where
  | enumeration | struct | methods | bindingIndex | shaderBlock | boundBlock | vertexInput
  deriving DecidableEq, Repr

namespace ItemKind

def keyword : ItemKind → String
  | enumeration => "pub enum "
  | struct => "pub struct "
  | methods => "impl "
  | bindingIndex => "impl crate::BindingIndex for "
  | shaderBlock => "impl crate::ShaderBlock for "
  | boundBlock => "impl crate::BoundBlock for "
  | vertexInput => "impl crate::VertexInput for "

/-- The head of the item of a type. -/
def head (kind : ItemKind) (name : String) : String :=
  kind.keyword ++ name

/-- A name has no blanks, so that it starts behind the last one of a head. -/
theorem head_inj {kind other : ItemKind} {name second : String} (hname : ' ' ∉ name.toList)
    (hsecond : ' ' ∉ second.toList) (h : kind.head name = other.head second) :
    kind = other ∧ name = second := by
  have hlast (kind : ItemKind) : ∃ rest, kind.keyword.toList.reverse = ' ' :: rest :=
    List.head?_eq_some_iff.mp (by cases kind <;> decide +kernel)
  have hcut (kind : ItemKind) {name : String} (hname : ' ' ∉ name.toList) :
      (kind.head name).toList.reverse.takeWhile (· != ' ') = name.toList.reverse := by
    obtain ⟨rest, hrest⟩ := hlast kind
    rw [head, String.toList_append, List.reverse_append, hrest]
    exact takeWhile_append_blank (fun hmem => hname (List.mem_reverse.mp hmem)) rest
  have hnames : name = second := by
    refine String.toList_injective (List.reverse_injective ?_)
    rw [← hcut kind hname, h, hcut other hsecond]
  subst hnames
  refine ⟨?_, rfl⟩
  have hkeyword := (String.append_left_inj _).mp h
  revert hkeyword
  cases kind <;> cases other <;> decide +kernel

end ItemKind

/-- Whether a line starts an item of these kinds. -/
def startsItem (line : String) : Bool :=
  ["pub enum ", "pub struct ", "impl "].any fun keyword =>
    keyword.toList.isPrefixOf line.toList

theorem startsItem_head (kind : ItemKind) (name : String) :
    startsItem (kind.head name ++ " \x7b") := by
  cases kind <;> simp [startsItem, ItemKind.head, ItemKind.keyword]

theorem startsItem_indent (line : String) : startsItem (indent line) = false := by
  rw [indent]
  split
  · next hempty =>
      rw [String.isEmpty_iff.mp hempty]
      decide
  · simp [startsItem, List.isPrefixOf]

theorem filter_braced (head tail : String) (body : List String) :
    (braced head body tail).filter startsItem = [head ++ " \x7b"].filter startsItem := by
  have hbody : (body.map indent).filter startsItem = [] :=
    List.filter_eq_nil_iff.mpr (List.forall_mem_map.mpr fun line _ => by simp [startsItem_indent])
  have htail : startsItem ("\x7d" ++ tail) = false := by
    simp [startsItem, List.isPrefixOf]
  simp only [braced, List.filter_append, List.filter_cons, hbody, htail, List.filter_nil]
  split <;> rfl

theorem filter_paragraph (lines : List String) :
    (paragraph lines).filter startsItem = lines.filter startsItem := by
  rw [paragraph, List.filter_append]
  exact List.append_nil _

/-! ### The items of the text -/

/-- The items of each type, in the order of the text. -/
def items (bindings : Bindings) : List (String × List ItemKind) :=
  bindings.enums.map (fun enum =>
      (enum.bindingClass.enumName, [.enumeration, .methods, .bindingIndex])) ++
    bindings.blocks.map (fun struct =>
      (struct.layout.name, [.struct, .methods, .shaderBlock, .boundBlock])) ++
    bindings.vertices.map fun struct => (struct.layout.name, [.struct, .methods, .vertexInput])

/-- The lines that the items of a type start with. -/
def headLines (item : String × List ItemKind) : List String :=
  item.2.map fun kind => kind.head item.1 ++ " \x7b"

theorem filter_enumLines (enum : IndexEnum) : (enumLines enum).filter startsItem =
    headLines (enum.bindingClass.enumName, [.enumeration, .methods, .bindingIndex]) := by
  have hrepr : (if enum.variants.isEmpty then [] else ["#[repr(u32)]"]).filter startsItem = [] := by
    split <;> decide +kernel
  simp only [enumLines, List.filter_append, filter_paragraph, enumDefinition, enumMethods,
    enumInstance, filter_braced, List.filter_cons, hrepr]
  simp [startsItem, List.isPrefixOf, toString, headLines, ItemKind.head, ItemKind.keyword]

theorem filter_aliasLines (entry : String × String × FieldType) :
    (aliasLines entry).filter startsItem = [] := by
  simp [aliasLines, filter_paragraph, startsItem, List.isPrefixOf, toString]

theorem filter_structLines (remark name : String) (members : List Member) (size : Nat)
    (offsets : List (String × Nat)) :
    (structLines remark name members size offsets).filter startsItem =
      headLines (name, [.struct, .methods]) := by
  simp only [structLines, List.filter_append, filter_paragraph, structDefinition, structConstructor,
    structAssertions, filter_braced, List.filter_cons]
  simp [startsItem, List.isPrefixOf, toString, headLines, ItemKind.head, ItemKind.keyword]

theorem filter_blockLines (struct : BlockStruct) : (blockLines struct).filter startsItem =
    headLines (struct.layout.name, [.struct, .methods, .shaderBlock, .boundBlock]) := by
  simp only [blockLines, List.filter_append, filter_paragraph, filter_structLines, filter_braced,
    List.filter_cons]
  simp [startsItem, List.isPrefixOf, toString, headLines, ItemKind.head, ItemKind.keyword]

theorem filter_vertexLines (struct : VertexStruct) : (vertexLines struct).filter startsItem =
    headLines (struct.layout.name, [.struct, .methods, .vertexInput]) := by
  simp only [vertexLines, List.filter_append, filter_paragraph, filter_structLines, filter_braced,
    List.filter_cons]
  simp [startsItem, List.isPrefixOf, toString, headLines, ItemKind.head, ItemKind.keyword]

theorem filter_listMacro (name what : String) (types : List String) :
    (listMacro name what types).filter startsItem = [] := by
  simp only [listMacro, filter_paragraph, filter_braced, List.filter_cons]
  simp [startsItem, List.isPrefixOf, toString]

/-- The heads in the text are those of the items. -/
theorem filter_lines (generation : Generation) (bindings : Bindings) :
    (lines generation bindings).filter startsItem = bindings.items.flatMap headLines := by
  have hbanner : generation.banner.filter startsItem = [] := by
    simp [Generation.banner, startsItem, List.isPrefixOf, toString]
  have hschema : (schemaLines generation).filter startsItem = [] := by
    rw [schemaLines]
    split
    · rfl
    · simp [filter_paragraph, startsItem, List.isPrefixOf, toString]
  have hremark : startsItem "/// host 端结构体使用的对齐规则" = false := by
    decide +kernel
  have hrules : startsItem (rulesLine bindings.hostRules) = false := by
    cases bindings.hostRules <;> decide +kernel
  simp only [lines, List.filter_append, filter_paragraph, hbanner, hschema, List.filter_cons,
    hremark, hrules, List.filter_nil, List.filter_flatMap, filter_enumLines, filter_aliasLines,
    filter_blockLines, filter_vertexLines, filter_listMacro]
  simp [items, List.flatMap_map]

/-- Items of types of different names have different heads. -/
theorem nodup_headLines {items : List (String × List ItemKind)}
    (hnames : (items.map Prod.fst).Nodup) (hkinds : ∀ item ∈ items, item.2.Nodup)
    (hblank : ∀ item ∈ items, ' ' ∉ item.1.toList) : (items.flatMap headLines).Nodup := by
  have hhead {kind other : ItemKind} {name second : String} (hname : ' ' ∉ name.toList)
      (hsecond : ' ' ∉ second.toList)
      (heq : kind.head name ++ " \x7b" = other.head second ++ " \x7b") :
      kind = other ∧ name = second :=
    ItemKind.head_inj hname hsecond ((String.append_left_inj _).mp heq)
  rw [List.nodup_flatMap]
  constructor
  · intro item hitem
    refine (hkinds item hitem).map fun kind other heq => ?_
    exact (hhead (hblank item hitem) (hblank item hitem) heq).1
  · rw [List.nodup_iff_pairwise_ne, List.pairwise_map] at hnames
    refine hnames.imp_of_mem fun hfirst hsecond hne line hline hline' => hne ?_
    obtain ⟨kind, -, rfl⟩ := List.mem_map.mp hline
    obtain ⟨other, -, heq⟩ := List.mem_map.mp hline'
    exact (hhead (hblank _ hsecond) (hblank _ hfirst) heq).2.symm

theorem map_fst_items (bindings : Bindings) :
    bindings.items.map Prod.fst = bindings.enumNames ++ bindings.structNames := by
  rw [items, List.map_append, List.map_append, List.map_map, List.map_map, List.map_map,
    List.append_assoc]
  rfl

variable {schema : Schema} {contract : Contract} {bindings : Bindings} {generation : Generation}

theorem Renders.nodup_heads (h : bindings.Renders contract) (hwell : schema.WellFormed)
    (hyields : schema.Yields contract) :
    ((lines generation bindings).filter startsItem).Nodup := by
  have hnames : bindings.items.map Prod.fst =
      BindingClass.all.map BindingClass.enumName ++ contract.structNames := by
    rw [map_fst_items, h.enumNames_eq, h.structNames_eq]
  have hnamed := hyields.wellNamed hwell
  have hblank : ∀ name ∈ bindings.items.map Prod.fst, ' ' ∉ name.toList := by
    have haccepted {name : String} (hname : Name.isAccepted name) : ' ' ∉ name.toList := by
      intro hmem
      have hword := Name.inIdentifier_of_isIdentifier (Name.isAccepted_iff.mp hname).1 hmem
      exact absurd hword (by decide)
    rw [hnames, Contract.structNames]
    simp only [List.forall_mem_append, List.forall_mem_map]
    refine ⟨fun bindingClass _ => ?_, fun block hblock => haccepted (hnamed.blocks block hblock).1,
      fun input hinput => haccepted (hnamed.vertexInputs input hinput).1⟩
    cases bindingClass <;> decide +kernel
  rw [filter_lines]
  refine nodup_headLines ?_ ?_ fun item hitem => hblank _ (List.mem_map_of_mem hitem)
  · rw [hnames]
    exact hwell.nodup_enumNames_append BindingClass.nodup_enumNames hyields.structNames_sublist
  · simp only [items, List.forall_mem_append, List.forall_mem_map]
    exact ⟨⟨fun _ _ => by decide, fun _ _ => by decide⟩, fun _ _ => by decide⟩

/-! ### Bodies of items -/

/-- The line of a member. -/
def memberLine : Member → String
  | .field name type => s!"pub {name}: {hostType type},"
  | .padding name words => s!"pub {name}: [u32; {words}],"

/-- The methods of an enumeration hold its tables: the list of all variants, and for each variant
its index and the name of its slot. -/
structure IndexEnum.Tabulated (enum : IndexEnum) (methods : List String) : Prop where
  all : methods.head? =
    let name := enum.bindingClass.enumName
    let variants := enum.variants.map fun variant => s!"{name}::{variant.name}"
    some s!"pub const ALL: [{name}; {enum.variants.length}] = [{commaSeparated variants}];"
  indices : bodyOf "match self" (bodyOf "pub const fn index(self) -> u32" methods) =
    enum.variants.map fun variant =>
      s!"{enum.bindingClass.enumName}::{variant.name} => {variant.index},"
  names : bodyOf "match self" (bodyOf "pub const fn name(self) -> &'static str" methods) =
    enum.variants.map fun variant =>
      s!"{enum.bindingClass.enumName}::{variant.name} => \"{variant.slot}\","

/-- The enumeration of a class stands in a text, with its variants and its tables. -/
structure IndexEnum.StandsIn (enum : IndexEnum) (text : List String) : Prop where
  variants : bodyOf (ItemKind.enumeration.head enum.bindingClass.enumName) text =
    enum.variants.map fun variant => s!"{variant.name} = {variant.index},"
  tables : enum.Tabulated (bodyOf (ItemKind.methods.head enum.bindingClass.enumName) text)

/-- The structure of a block and its tables stand in a text: the members, the name with the fields,
and the slot. -/
structure BlockStruct.StandsIn (struct : BlockStruct) (text : List String) : Prop where
  members : bodyOf (ItemKind.struct.head struct.layout.name) text = struct.members.map memberLine
  fields : bodyOf (ItemKind.shaderBlock.head struct.layout.name) text =
    s!"const NAME: &'static str = \"{struct.layout.name}\";" ::
      "const FIELDS: &'static [(&'static str, usize)] = &[" ::
      struct.layout.fields.map (fun field =>
        s!"    (\"{field.name}\", ::core::mem::offset_of!({struct.layout.name}, {field.name})),") ++
      ["];"]
  slot : bodyOf (ItemKind.boundBlock.head struct.layout.name) text =
    [s!"const SLOT: BufferIndex = BufferIndex::{struct.slot};"]

/-- The structure of a vertex and its tables stand in a text. -/
structure VertexStruct.StandsIn (struct : VertexStruct) (text : List String) : Prop where
  members : bodyOf (ItemKind.struct.head struct.layout.name) text = struct.members.map memberLine
  tables : bodyOf (ItemKind.vertexInput.head struct.layout.name) text =
    s!"const NAME: &'static str = \"{struct.layout.name}\";" ::
      s!"const SLOT: BufferIndex = BufferIndex::{struct.slot};" ::
      s!"const STRIDE: usize = {struct.layout.stride};" ::
      "const ATTRIBUTES: &'static [crate::VertexAttribute] = &[" ::
      struct.layout.attributes.map attributeLine ++ ["];"]

/-- All declarations of bindings stand in a text. -/
structure StandsIn (bindings : Bindings) (text : List String) : Prop where
  enums : ∀ enum ∈ bindings.enums, enum.StandsIn text
  blocks : ∀ struct ∈ bindings.blocks, struct.StandsIn text
  vertices : ∀ struct ∈ bindings.vertices, struct.StandsIn text

/-! Where declarations stand in the text. -/

theorem infix_lines (generation : Generation) (bindings : Bindings) :
    bindings.enums.flatMap enumLines <:+: lines generation bindings ∧
      bindings.blocks.flatMap blockLines <:+: lines generation bindings ∧
      bindings.vertices.flatMap vertexLines <:+: lines generation bindings := by
  have hleft {part text : List String} (rest : List String) (h : part <:+: text) :
      part <:+: text ++ rest := List.infix_append_of_infix_left h
  have hlast (text part : List String) : part <:+: text ++ part :=
    (List.suffix_append text part).isInfix
  refine ⟨?_, ?_, ?_⟩
  · exact hleft _ <| hleft _ <| hleft _ <| hleft _ <| hleft _ <| hlast _ _
  · exact hleft _ <| hleft _ <| hleft _ <| hlast _ _
  · exact hleft _ <| hleft _ <| hlast _ _

theorem infix_paragraph {part lines : List String} (h : part <:+: lines) :
    part <:+: paragraph lines :=
  List.infix_append_of_infix_left h

variable {text : List String}

/-- What stands behind the head of an item in a text without two heads alike. -/
theorem bodyOf_head (hheads : (text.filter startsItem).Nodup) (kind : ItemKind) (name : String)
    {body : List String} (h : braced (kind.head name) body "" <:+: text) :
    bodyOf (kind.head name) text = body :=
  bodyOf_of_infix hheads (startsItem_head kind name) h

theorem IndexEnum.exists_tabulated (enum : IndexEnum) : ∃ body,
    enumMethods enum = braced (ItemKind.methods.head enum.bindingClass.enumName) body "" ∧
      enum.Tabulated body := by
  let name := enum.bindingClass.enumName
  let variants := enum.variants.map fun variant => s!"{name}::{variant.name}"
  let all := s!"pub const ALL: [{name}; {enum.variants.length}] = [{commaSeparated variants}];"
  let index := braced "pub const fn index(self) -> u32"
    (variantMatch name enum.variants fun variant => toString variant.index) ""
  let names := braced "pub const fn name(self) -> &'static str"
    (variantMatch name enum.variants fun variant => "\"" ++ variant.slot ++ "\"") ""
  have hfirst (text : String) : "pub const fn " ++ text ∉ [all, "", "#[inline]"] := by
    simp [all, toString, ← String.toList_inj]
  refine ⟨[all, "", "#[inline]"] ++ (index ++ ("" :: names)), rfl, rfl, ?_, ?_⟩
  -- The second method stands behind the first one, whose lines are all between braces.
  · have hbefore : "pub const fn index(self) -> u32" ++ " \x7b" ∉ [all, "", "#[inline]"] :=
      hfirst "index(self) -> u32 \x7b"
    rw [bodyOf_append hbefore]
    exact bodyOf_braced _ _
  · have hbefore : "pub const fn name(self) -> &'static str" ++ " \x7b" ∉
        [all, "", "#[inline]"] ++ index ++ [""] := by
      simp only [List.mem_append, not_or]
      refine ⟨⟨hfirst "name(self) -> &'static str \x7b", ?_⟩, by decide +kernel⟩
      exact notMem_braced (by decide +kernel) (by decide +kernel)
    have hsplit : [all, "", "#[inline]"] ++ (index ++ ("" :: names)) =
        [all, "", "#[inline]"] ++ index ++ [""] ++ (names ++ []) := by
      simp
    rw [hsplit, bodyOf_append hbefore]
    refine (bodyOf_braced _ _).trans (List.map_congr_left fun variant _ => ?_)
    rw [← String.toList_inj]
    simp [name, toString]

theorem IndexEnum.standsIn (hheads : (text.filter startsItem).Nodup) {enum : IndexEnum}
    (h : enumLines enum <:+: text) : enum.StandsIn text := by
  have hdefinition : braced (ItemKind.enumeration.head enum.bindingClass.enumName)
      (enum.variants.map fun variant => s!"{variant.name} = {variant.index},") "" <:+: text := by
    refine List.IsInfix.trans ?_ h
    refine List.infix_append_of_infix_left (List.infix_append_of_infix_left (infix_paragraph ?_))
    exact List.infix_append_of_infix_right (List.infix_cons (List.infix_refl _))
  have hmethods : enumMethods enum <:+: text := by
    refine List.IsInfix.trans ?_ h
    exact List.infix_append_of_infix_left
      (List.infix_append_of_infix_right (infix_paragraph (List.infix_refl _)))
  obtain ⟨body, henum, htables⟩ := enum.exists_tabulated
  have hbody := bodyOf_head hheads .methods enum.bindingClass.enumName (henum ▸ hmethods)
  exact ⟨bodyOf_head hheads .enumeration _ hdefinition, hbody ▸ htables⟩

theorem infix_structLines (remark name : String) (members : List Member) (size : Nat)
    (offsets : List (String × Nat)) :
    braced (ItemKind.struct.head name) (members.map memberLine) "" <:+:
      structLines remark name members size offsets := by
  refine List.infix_append_of_infix_left (List.infix_append_of_infix_left (infix_paragraph ?_))
  exact List.infix_cons (List.infix_cons (List.infix_cons (List.infix_refl _)))

theorem BlockStruct.standsIn (hheads : (text.filter startsItem).Nodup) {struct : BlockStruct}
    (h : blockLines struct <:+: text) : struct.StandsIn text := by
  refine ⟨bodyOf_head hheads .struct _ (List.IsInfix.trans ?_ h),
    bodyOf_head hheads .shaderBlock _ (List.IsInfix.trans ?_ h),
    bodyOf_head hheads .boundBlock _ (List.IsInfix.trans ?_ h)⟩
  · exact List.infix_append_of_infix_left
      (List.infix_append_of_infix_left (infix_structLines _ _ _ _ _))
  · exact List.infix_append_of_infix_left
      (List.infix_append_of_infix_right (infix_paragraph (List.infix_refl _)))
  · exact List.infix_append_of_infix_right (infix_paragraph (List.infix_refl _))

theorem VertexStruct.standsIn (hheads : (text.filter startsItem).Nodup) {struct : VertexStruct}
    (h : vertexLines struct <:+: text) : struct.StandsIn text := by
  refine ⟨bodyOf_head hheads .struct _ (List.IsInfix.trans ?_ h),
    bodyOf_head hheads .vertexInput _ (List.IsInfix.trans ?_ h)⟩
  · exact List.infix_append_of_infix_left (infix_structLines _ _ _ _ _)
  · exact List.infix_append_of_infix_right (infix_paragraph (List.infix_refl _))

/-- The text of the bindings of an accepted contract has all their declarations. -/
theorem Renders.standsIn_lines (h : bindings.Renders contract) (hwell : schema.WellFormed)
    (hyields : schema.Yields contract) : bindings.StandsIn (lines generation bindings) := by
  have hheads : ((lines generation bindings).filter startsItem).Nodup :=
    h.nodup_heads hwell hyields
  obtain ⟨henums, hblocks, hvertices⟩ := infix_lines generation bindings
  refine ⟨fun enum henum => ?_, fun struct hstruct => ?_, fun struct hstruct => ?_⟩
  · exact IndexEnum.standsIn hheads
      ((List.infix_of_mem_flatten (List.mem_map_of_mem henum)).trans henums)
  · exact BlockStruct.standsIn hheads
      ((List.infix_of_mem_flatten (List.mem_map_of_mem hstruct)).trans hblocks)
  · exact VertexStruct.standsIn hheads
      ((List.infix_of_mem_flatten (List.mem_map_of_mem hstruct)).trans hvertices)

end Bindings

end ShaderLayout
