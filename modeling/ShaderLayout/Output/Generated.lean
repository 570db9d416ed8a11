import ShaderLayout.Config.Basic
import ShaderLayout.Report
import ShaderLayout.Shader.Verify
import ShaderLayout.Target.Text

/-!
Generated files, before anything is written. All outputs are generated and the
shader modules among them verified first, so that a fault in one keeps all the
others from being written.
-/

namespace ShaderLayout

structure GeneratedFile where
  target : Target
  path : Path
  content : String
  deriving DecidableEq, Repr

namespace Output

def generate (generation : Generation) (output : Output) : Except Failure GeneratedFile := do
  let content ← (output.target.text generation).mapError (.notGenerated output.target output.path)
  return ⟨output.target, output.path, content⟩

def generateAll (generation : Generation) (outputs : List Output) :
    Except Failure (List GeneratedFile) :=
  outputs.mapM (generate generation)

end Output

namespace GeneratedFile

/-- Verifies a shader module against the contract. -/
def verify (contract : Contract) (file : GeneratedFile) : Report Unit := do
  Report.give (contract.shaderNotices file.content)
  Report.ofResult (.notVerified file.path) (contract.checkShader file.content)
  Report.notice .info .generator s!"verified {file.path.text} with naga"

/-- Verifies the files that can be read back, which are the shader modules. -/
def verifyAll (contract : Contract) (files : List GeneratedFile) : Report Unit :=
  (files.filter fun file => file.target = .wgsl).forM (verify contract)

end GeneratedFile

end ShaderLayout
