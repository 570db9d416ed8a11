import ShaderLayout.File.Tree

/-!
Compile tasks. Every shader file below a source directory is compiled to a file
at the same place below a build directory.
-/

namespace ShaderLayout

structure CompileTask where
  shader : Path
  output : Path
  deriving DecidableEq, Repr

namespace CompileTask

/-- The task for the file that the names lead to from the source directory, if it is a shader. -/
def ofNames? (source build : Path) (names : Location) : Option CompileTask :=
  let shader := names.foldl (fun path name => path.child name.text) source
  let relative : Path := ⟨names.text⟩
  if shader.extension? = some "metal" then
    some ⟨shader, (build.join relative).withExtension "air"⟩
  else none

/-- The tasks for all files below a source directory. If that is a file, it is the only one. -/
def collect (tree : Tree) (source build : Path) : List CompileTask :=
  match tree.locate source.steps with
  | .ok (.taken location _) =>
    if tree.hasEntry source then (tree.filesBelow location).filterMap (ofNames? source build)
    else []
  | _ => []

end CompileTask

end ShaderLayout
