import ShaderLayout.Argument.Check
import ShaderLayout.Argument.Derive
import ShaderLayout.Host.Contract
import ShaderLayout.Host.Image
import ShaderLayout.Host.Verify
import ShaderLayout.Layout.Access
import ShaderLayout.Main
import ShaderLayout.Proofs.Host.Image
import ShaderLayout.Proofs.Host.Members
import ShaderLayout.Proofs.Host.Verification
import ShaderLayout.Proofs.Memory.Store
import ShaderLayout.Proofs.Portability.Criterion
import ShaderLayout.Proofs.Portability.Interchange
import ShaderLayout.Proofs.Program.Rerun
import ShaderLayout.Proofs.Shader.Types
import ShaderLayout.Schema.File
import ShaderLayout.Proofs.Program.Obstacle
import ShaderLayout.Proofs.Host.TypeNames
import ShaderLayout.Proofs.Header.Names
import ShaderLayout.Proofs.Host.Items
import ShaderLayout.Proofs.Host.Freshness
import ShaderLayout.Proofs.Layout.Least
import ShaderLayout.Proofs.Memory.Element
import ShaderLayout.Proofs.Memory.Decoding
import ShaderLayout.Proofs.Argument.Binding
import ShaderLayout.Proofs.Target.Legality
import ShaderLayout.Proofs.Output.Effect
import ShaderLayout.Host.Carried
import ShaderLayout.Proofs.Text.Digits
import ShaderLayout.Proofs.Layout.Difference
import ShaderLayout.Proofs.Host.Carried
import ShaderLayout.Proofs.Schema.Reordering
import ShaderLayout.Proofs.Host.Rules
import ShaderLayout.Proofs.Target.Renderings
import ShaderLayout.Proofs.Schema.Numbering
import ShaderLayout.Proofs.File.Path
import ShaderLayout.Proofs.Compile.Parallel
