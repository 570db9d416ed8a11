import ShaderLayout.Config.Basic
import ShaderLayout.File.Tree
import ShaderLayout.Report
import ShaderLayout.Toml.Decode
import ShaderLayout.Toml.Reader

/-!
Reading a configuration. Whatever it leaves out is as in the standard one. A
configuration file that was asked for has to be there; the one of the workspace
may be missing.
-/

namespace ShaderLayout

open Toml

def Path.ofToml (value : Value) : Except Fault Path := return ⟨← value.asString⟩

def Output.ofToml (value : Value) : Except Fault Output := do
  let record ← value.asRecord
  return {
    target := ← record.required 0 "target" (Value.asChoice Target.ofName?)
    path := ← record.required 1 "path" Path.ofToml }

def MetalOptions.ofToml (standard : MetalOptions) (value : Value) : Except Fault MetalOptions := do
  let record ← value.asRecord
  return {
    compile := ← record.withDefault 0 "compile" standard.compile Value.asBoolean
    sdk := ← record.withDefault 1 "sdk" standard.sdk Value.asString
    sourceDirectory := ← record.withDefault 2 "src_dir" standard.sourceDirectory Path.ofToml
    buildDirectory := ← record.withDefault 3 "build_dir" standard.buildDirectory Path.ofToml }

namespace Config

def ofToml (standard : Config) (entries : Entries) : Except Fault Config := do
  let record := Record.keyed entries
  return {
    schema := ← record.withDefault 0 "schema" standard.schema Path.ofToml
    outputs := ← record.withDefault 1 "outputs" standard.outputs (Value.asItems Output.ofToml)
    metal := ← record.withDefault 2 "metal" standard.metal (MetalOptions.ofToml standard.metal) }

/-- The configuration that a text writes down. -/
def ofText (workspace : Workspace) (text : String) : Except Failure Config :=
  ((Toml.read text >>= ofToml (standard workspace)).mapError .malformedConfig).map
    (·.resolve workspace)

/-- The configuration in a file. -/
def load (workspace : Workspace) (tree : Tree) (path : Path) : Except Failure Config := do
  let text ← (tree.readText path).mapError (.unreadable path)
  (ofText workspace text).mapError (.inConfig path)

/-- The configuration in a file, or the standard one if there is no such file. -/
def loadOrStandard (workspace : Workspace) (tree : Tree) (path : Path) : Report Config :=
  if tree.hasEntry path then Report.ofResult id (load workspace tree path)
  else do
    Report.notice .warning .generator s!"{path.text} not found, using default outputs"
    return standard workspace

end Config

end ShaderLayout
