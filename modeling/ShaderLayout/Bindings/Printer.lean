import ShaderLayout.Bindings.Declaration
import ShaderLayout.Text.Quoted

/-!
The text of the host bindings. The bindings are included at the root of the
crate that defines the host types. Every layout is asserted at compile time, and
tables of names, offsets and slots stand beside each structure for checks at run
time.
-/

namespace ShaderLayout.Bindings

open Text

/-- The host type of a field. -/
def hostType (type : FieldType) : String :=
  match type with
  | .float => "f32"
  | .int => "i32"
  | .uint => "u32"
  | type => "crate::" ++ Name.pascal type.name

/-- Lines with an empty line behind them. -/
def paragraph (lines : List String) : List String :=
  lines ++ [""]

/-- A match over the variants of an enumeration. -/
def variantMatch (enumName : String) (variants : List Variant) (value : Variant → String) :
    List String :=
  braced "match self"
    (variants.map fun variant => s!"{enumName}::{variant.name} => {value variant},") ""

def enumDefinition (enum : IndexEnum) : List String :=
  s!"/// {enum.bindingClass.name} 类别的 binding 序号" ::
    (if enum.variants.isEmpty then [] else ["#[repr(u32)]"]) ++
    "#[derive(Debug, Clone, Copy, PartialEq, Eq, Hash)]" ::
    braced s!"pub enum {enum.bindingClass.enumName}"
      (enum.variants.map fun variant => s!"{variant.name} = {variant.index},") ""

def enumMethods (enum : IndexEnum) : List String :=
  let name := enum.bindingClass.enumName
  let variants := enum.variants.map fun variant => s!"{name}::{variant.name}"
  braced s!"impl {name}"
    (s!"pub const ALL: [{name}; {enum.variants.length}] = [{commaSeparated variants}];" ::
      "" ::
      "#[inline]" ::
      braced "pub const fn index(self) -> u32"
        (variantMatch name enum.variants fun variant => toString variant.index) "" ++
      "" ::
      braced "pub const fn name(self) -> &'static str"
        (variantMatch name enum.variants fun variant => "\"" ++ variant.slot ++ "\"") "") ""

def enumInstance (enum : IndexEnum) : List String :=
  let name := enum.bindingClass.enumName
  let className := Name.pascal enum.bindingClass.name
  braced s!"impl crate::BindingIndex for {name}"
    (("const CLASS: ::prism_layout_schema::BindingClass = " ++
        s!"::prism_layout_schema::BindingClass::{className};") ::
      s!"const ALL: &'static [Self] = &{name}::ALL;" ::
      "" ::
      braced "fn index(self) -> u32" [s!"{name}::index(self)"] "" ++
      "" ::
      braced "fn name(self) -> &'static str" [s!"{name}::name(self)"] "") ""

def enumLines (enum : IndexEnum) : List String :=
  paragraph (enumDefinition enum) ++ paragraph (enumMethods enum) ++ paragraph (enumInstance enum)

def aliasLines : String × String × FieldType → List String
  | (slot, name, type) =>
    paragraph [s!"/// `{slot}` 槽位中的标量", s!"pub type {name} = {hostType type};"]

def structDefinition (remark name : String) (members : List Member) : List String :=
  s!"/// {remark}" ::
    "#[repr(C)]" ::
    "#[derive(Debug, Clone, Copy, PartialEq, ::bytemuck::Pod, ::bytemuck::Zeroable)]" ::
    braced s!"pub struct {name}"
      (members.map fun member =>
        match member with
        | .field name type => s!"pub {name}: {hostType type},"
        | .padding name words => s!"pub {name}: [u32; {words}],") ""

/-- The constructor takes the fields; padding is zero. -/
def structConstructor (name : String) (members : List Member) : List String :=
  let parameters := members.filterMap fun member =>
    match member with
    | .field name type => some s!"{name}: impl Into<{hostType type}>"
    | .padding .. => none
  let initializers := members.map fun member =>
    match member with
    | .field name _ => s!"{name}: {name}.into(),"
    | .padding name words => s!"{name}: [0; {words}],"
  braced s!"impl {name}"
    ("#[allow(clippy::too_many_arguments)]" ::
      braced s!"pub fn new({commaSeparated parameters}) -> Self"
        (braced "Self" initializers "") "") ""

/-- The assertions on size and offsets. -/
def structAssertions (name : String) (size : Nat) (offsets : List (String × Nat)) :
    List String :=
  braced "const _: () ="
    (s!"assert!(::core::mem::size_of::<{name}>() == {size});" ::
      offsets.map fun (field, offset) =>
        s!"assert!(::core::mem::offset_of!({name}, {field}) == {offset});") ";"

def structLines (remark name : String) (members : List Member) (size : Nat)
    (offsets : List (String × Nat)) : List String :=
  paragraph (structDefinition remark name members) ++
    paragraph (structConstructor name members) ++ paragraph (structAssertions name size offsets)

def blockLines (struct : BlockStruct) : List String :=
  let layout := struct.layout
  structLines s!"`BufferIndex::{struct.slot}` 中的数据块，{layout.size} 字节" layout.name
    struct.members layout.size (layout.fields.map fun field => (field.name, field.offset)) ++
  paragraph (braced s!"impl crate::ShaderBlock for {layout.name}"
    (s!"const NAME: &'static str = \"{layout.name}\";" ::
      "const FIELDS: &'static [(&'static str, usize)] = &[" ::
      layout.fields.map (fun field =>
        s!"    (\"{field.name}\", ::core::mem::offset_of!({layout.name}, {field.name})),") ++
      ["];"]) "") ++
  paragraph (braced s!"impl crate::BoundBlock for {layout.name}"
    [s!"const SLOT: BufferIndex = BufferIndex::{struct.slot};"] "")

/-- One row of the table of attributes. -/
def attributeLine (attr : AttributeLayout) : String :=
  s!"    crate::VertexAttribute \x7b name: \"{attr.name}\", location: {attr.location}, " ++
    s!"format: ::prism_layout_schema::FieldType::{Name.pascal attr.format.name}, " ++
    s!"offset: {attr.offset} \x7d,"

def vertexLines (struct : VertexStruct) : List String :=
  let layout := struct.layout
  structLines s!"顶点布局，stride {layout.stride}" layout.name struct.members layout.stride
    (layout.attributes.map fun attr => (attr.name, attr.offset)) ++
  paragraph (braced s!"impl crate::VertexInput for {layout.name}"
    (s!"const NAME: &'static str = \"{layout.name}\";" ::
      s!"const SLOT: BufferIndex = BufferIndex::{struct.slot};" ::
      s!"const STRIDE: usize = {layout.stride};" ::
      "const ATTRIBUTES: &'static [crate::VertexAttribute] = &[" ::
      layout.attributes.map attributeLine ++
      ["];"]) "")

/-- The definition of a macro that applies another one to a list of types. -/
def listMacro (name what : String) (types : List String) : List String :=
  paragraph (s!"/// 对所有{what}执行 `$f`" ::
    "#[allow(unused_macros)]" ::
    braced ("macro_rules! " ++ name)
      (braced "($f:ident) =>" ["$f!(" ++ commaSeparated types ++ ");"] ";") "")

/-- The lines of the schema's own text, where it is carried along. -/
def schemaLines (generation : Generation) : List String :=
  match generation.schemaText with
  | none => []
  | some text =>
    paragraph [s!"/// 生成时使用的 `{generation.schemaName}` 原文",
      "pub const SCHEMA_SOURCE: &str = " ++ literal text ++ ";"]

/-- The line that names the rules of the host. -/
def rulesLine (rules : LayoutRules) : String :=
  "pub const HOST_RULES: ::prism_layout_schema::LayoutRules = " ++
    s!"::prism_layout_schema::LayoutRules::{Name.pascal rules.name};"

/-- The lines of the bindings. -/
def lines (generation : Generation) (bindings : Bindings) : List String :=
  paragraph generation.banner ++ schemaLines generation ++
    paragraph ["/// host 端结构体使用的对齐规则", rulesLine bindings.hostRules] ++
    bindings.enums.flatMap enumLines ++
    bindings.aliases.flatMap aliasLines ++
    bindings.blocks.flatMap blockLines ++
    bindings.vertices.flatMap vertexLines ++
    listMacro "for_each_shader_block" "数据块" (bindings.blocks.map (·.layout.name)) ++
    listMacro "for_each_vertex_input" "顶点布局" (bindings.vertices.map (·.layout.name))

end ShaderLayout.Bindings
