import ShaderLayout.Header.Declaration

/-! The text of the MSL header. -/

namespace ShaderLayout.Header

open Text

/-- The type of a block member, known to shaders and to C. -/
def sharedType : FieldType → String
  | .float => "float"
  | .int => "int"
  | .uint => "unsigned int"
  | .float2 => "simd_float2"
  | .float3 => "simd_float3"
  | .float4 => "simd_float4"
  | .int2 => "simd_int2"
  | .int4 => "simd_int4"
  | .uint2 => "simd_uint2"
  | .uint4 => "simd_uint4"
  | .float3x3 => "matrix_float3x3"
  | .float4x4 => "matrix_float4x4"

/-- The lines of enumerators, with a comma behind each but the last. -/
def enumeratorLines : List (String × Nat) → List String
  | [] => []
  | [(name, value)] => [s!"{name} = {value}"]
  | (name, value) :: rest => s!"{name} = {value}," :: enumeratorLines rest

/-- The assertions on the size of a block and the offsets of its fields. -/
def assertionLines (macroName schemaName : String) (layout : BlockLayout) : List String :=
  s!"{macroName}(sizeof({layout.name}) == {layout.size}, \"{layout.name} size diverged from {schemaName}\");" ::
    layout.fields.map fun field =>
      let member := Name.camel field.name
      s!"{macroName}(__builtin_offsetof({layout.name}, {member}) == {field.offset}, " ++
        s!"\"{layout.name}.{member} offset diverged from {schemaName}\");"

/-- The lines of a declaration. -/
def declarationLines (macroName schemaName : String) : Declaration → List String
  | .enumeration name enumerators =>
    braced s!"typedef enum {name} : unsigned int" (enumeratorLines enumerators) s!" {name};" ++ [""]
  | .alias type name => [s!"typedef {sharedType type} {name};", ""]
  | .block struct =>
    let layout := struct.layout
    s!"// {struct.slot}, {layout.size} bytes" ::
      braced s!"typedef struct {layout.name}"
        (layout.fields.map fun field => s!"{sharedType field.type} {Name.camel field.name};")
        s!" {layout.name};" ++
      [""] ++ assertionLines macroName schemaName layout ++ [""]
  | .vertex name members =>
    "#ifdef __METAL_VERSION__" ::
      braced s!"typedef struct {name}"
        (members.map fun member =>
          s!"{member.format.name} {member.name} [[attribute({member.location})]];")
        s!" {name};" ++
      ["#endif", ""]

/-- The lines that open the guard and define the macro of the assertions. -/
def preludeLines (guard macroName : String) : List String := [
  s!"#ifndef {guard}",
  s!"#define {guard}",
  "",
  "#include <simd/simd.h>",
  "",
  "#ifdef __METAL_VERSION__",
  s!"#define {macroName}(cond, msg) static_assert(cond, msg)",
  "#else",
  s!"#define {macroName}(cond, msg) _Static_assert(cond, msg)",
  "#endif",
  ""]

/-- The lines of the header. -/
def lines (generation : Generation) : List String :=
  let contractName := Name.shouty generation.contract.name
  let guard := contractName ++ "_SHADER_TYPES_H"
  let macroName := contractName ++ "_LAYOUT_ASSERT"
  generation.banner ++ preludeLines guard macroName ++
    (declarations generation.contract).flatMap
      (declarationLines macroName generation.schemaName) ++
    [s!"#endif /* {guard} */"]

end ShaderLayout.Header
