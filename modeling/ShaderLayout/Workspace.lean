import ShaderLayout.File.Path

/-!
The workspace and the places in it that have a fixed meaning. Relative paths of
a configuration start from its root.
-/

namespace ShaderLayout

structure Workspace where
  root : Path
  deriving DecidableEq, Repr

namespace Workspace

def resolve (workspace : Workspace) (path : Path) : Path := workspace.root.join path

def configFile (workspace : Workspace) : Path := workspace.root.child "shader-gen.toml"

def engine (workspace : Workspace) : Path := workspace.root.child "engine"

def shaderRoot (workspace : Workspace) : Path := workspace.engine.child "shader"

def schemaFile (workspace : Workspace) : Path := workspace.shaderRoot.child "layout.toml"

/-- Where generated declarations go. -/
def includeDirectory (workspace : Workspace) : Path := workspace.shaderRoot.child "include"

def shaderSources (workspace : Workspace) : Path := workspace.shaderRoot.child "src"

/-- Where compiled shaders go. -/
def shaderBuild (workspace : Workspace) : Path := workspace.shaderRoot.child ".build"

/-- The fixed places, from the root on. -/
def places (workspace : Workspace) : List Path :=
  [workspace.root, workspace.configFile, workspace.engine, workspace.shaderRoot,
    workspace.schemaFile, workspace.includeDirectory, workspace.shaderSources,
    workspace.shaderBuild]

end Workspace

end ShaderLayout
