import ShaderLayout.Shader.Items

/-! The text of the WGSL module. -/

namespace ShaderLayout.Shader

open Text

/-- The text of a type. -/
def typeText : FieldType → String
  | .float => "f32"
  | .int => "i32"
  | .uint => "u32"
  | .float2 => "vec2<f32>"
  | .float3 => "vec3<f32>"
  | .float4 => "vec4<f32>"
  | .int2 => "vec2<i32>"
  | .int4 => "vec4<i32>"
  | .uint2 => "vec2<u32>"
  | .uint4 => "vec4<u32>"
  | .float3x3 => "mat3x3<f32>"
  | .float4x4 => "mat4x4<f32>"

namespace ItemMember

def line (member : ItemMember) : String :=
  let location := match member.location with
    | some index => s!"@location({index}) "
    | none => ""
  let remark := match member.offset with
    | some offset => s!" // offset {offset}"
    | none => ""
  s!"{location}{member.name}: {typeText member.type},{remark}"

end ItemMember

/-- The lines of an item. -/
def Item.lines : Item → List String
  | .constant name value => [s!"const {name}: u32 = {value}u;"]
  | .alias name type => [s!"alias {name} = {typeText type};", ""]
  | .struct remark name members =>
    s!"// {remark}" :: braced s!"struct {name}" (members.map ItemMember.line) "" ++ [""]

/-- The constants of a class, with an empty line behind them if there are any. -/
def constantLines (contract : Contract) (bindingClass : BindingClass) : List String :=
  let constants := classConstants contract bindingClass
  constants.flatMap Item.lines ++ if constants.isEmpty then [] else [""]

/-- The lines of the module. -/
def lines (generation : Generation) : List String :=
  let contract := generation.contract
  generation.banner ++ [""] ++
    BindingClass.all.flatMap (constantLines contract) ++
    (scalarAliases contract).flatMap Item.lines ++
    (blockStructs contract).flatMap Item.lines ++
    (vertexStructs contract).flatMap Item.lines

end ShaderLayout.Shader
