import ShaderLayout.Bindings.Printer
import ShaderLayout.Header.Printer
import ShaderLayout.Shader.Printer

/-! The text of a generated file, for each target. -/

namespace ShaderLayout

/-- The text for a target. Only the host bindings can fail, if fields of a structure overlap. -/
def Target.text (target : Target) (generation : Generation) :
    Except Bindings.MemberFault String :=
  match target with
  | .msl => .ok (Text.unlines (Header.lines generation))
  | .wgsl => .ok (Text.unlines (Shader.lines generation))
  | .rust => do
    let bindings ← Bindings.ofContract generation.contract
    return Text.unlines (Bindings.lines generation bindings)

end ShaderLayout
