import ShaderLayout.Notice
import ShaderLayout.Shader.Layout

/-!
Verification of shader modules. The structures of a module are laid out by the
rules of the shader language alone and compared with the blocks of a contract,
so that both sides are known to mean the same bytes. The modules that are
generated only declare data, so that the front end for those will do for them.
-/

namespace ShaderLayout.Shader

/-- How errors name the side of the shader. -/
def sideName : String := "wgsl (naga)"

/-- The layout that goes by a name: the last one if there are several. -/
def layoutNamed? (name : String) (observed : List ObservedLayout) : Option ObservedLayout :=
  observed.reverse.find? fun layout => layout.block == name

/-- Compares a block with the structure of its name. -/
def checkBlock (observed : List ObservedLayout) (block : Block) : Except LayoutError Unit :=
  match layoutNamed? block.name observed with
  | none => .error (.mismatch sideName (.missingBlock block.name))
  | some layout => ((block.layout .wgsl).compare layout).mapError (.mismatch sideName)

end Shader

namespace Contract

variable {α : Type}

/-- Checks that a module declares every block with its layout. -/
def checkModule (contract : Contract) (frontEnd : Shader.FrontEnd α) (source : String) :
    Except LayoutError Unit := do
  let observed ← frontEnd.layouts source
  contract.blocks.forM (Shader.checkBlock observed)

def matchText (block : Block) : String :=
  s!"{block.name} matches naga layout ({(block.layout .wgsl).size} bytes)"

/-- One notice for each block that matches, up to the first that does not. -/
def moduleNotices (contract : Contract) (frontEnd : Shader.FrontEnd α) (source : String) :
    List Notice :=
  match frontEnd.layouts source with
  | .error _ => []
  | .ok observed =>
    (contract.blocks.takeWhile fun block => (Shader.checkBlock observed block).isOk).map
      fun block => ⟨.debug, .generator, matchText block⟩

/-- The check of a module of data. -/
def checkShader (contract : Contract) (source : String) : Except LayoutError Unit :=
  contract.checkModule Shader.dataFrontEnd source

def shaderNotices (contract : Contract) (source : String) : List Notice :=
  contract.moduleNotices Shader.dataFrontEnd source

end Contract

end ShaderLayout
