import ShaderLayout.File.Tree
import ShaderLayout.Schema.Decode

/-! Reading a schema from a file. -/

namespace ShaderLayout

def Schema.ofFile (tree : Tree) (path : Path) : Except LayoutError Schema := do
  let text ← (tree.readText path).mapError (.unreadable path.text)
  Schema.ofText text

end ShaderLayout
