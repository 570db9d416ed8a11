import ShaderLayout.Target.Basic
import ShaderLayout.Workspace

/-!
Configurations: the schema to generate from, the files to generate, and whether
to compile shaders afterwards.
-/

namespace ShaderLayout

/-- A file to generate. -/
structure Output where
  target : Target
  path : Path
  deriving DecidableEq, Repr

/-- How Metal shaders are compiled after a generation. -/
structure MetalOptions where
  compile : Bool
  sdk : String
  sourceDirectory : Path
  buildDirectory : Path
  deriving DecidableEq, Repr

structure Config where
  schema : Path
  outputs : List Output
  metal : MetalOptions
  deriving DecidableEq, Repr

def MetalOptions.standard (workspace : Workspace) : MetalOptions :=
  ⟨false, "macosx", workspace.shaderSources, workspace.shaderBuild⟩

namespace Config

/-- The configuration of a workspace that has none of its own. -/
def standard (workspace : Workspace) : Config where
  schema := workspace.schemaFile
  outputs :=
    [⟨.msl, workspace.includeDirectory.child "ShaderTypes.h"⟩,
      ⟨.wgsl, workspace.includeDirectory.child "shader_types.wgsl"⟩]
  metal := .standard workspace

/-- Has every path start from the root of the workspace. -/
def resolve (config : Config) (workspace : Workspace) : Config where
  schema := workspace.resolve config.schema
  outputs := config.outputs.map fun output => { output with path := workspace.resolve output.path }
  metal := { config.metal with
    sourceDirectory := workspace.resolve config.metal.sourceDirectory
    buildDirectory := workspace.resolve config.metal.buildDirectory }

/-- The targets of the outputs, each once. -/
def targets (config : Config) : List Target := (config.outputs.map (·.target)).eraseDups

end Config

end ShaderLayout
