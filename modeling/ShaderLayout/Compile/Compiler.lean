import ShaderLayout.Compile.Task
import ShaderLayout.Report
import ShaderLayout.Text.Lossy

/-!
Compilation of all shaders of a source directory. A compiler that is not there
is no failure: the compilation is skipped. Otherwise the tasks are done one
after another, up to the first that fails.
-/

namespace ShaderLayout

/-- What a run of a compiler leaves behind besides files. -/
structure CompilerResult where
  succeeded : Bool
  stdout : ByteArray
  stderr : ByteArray

structure Compiler where
  name : String
  isAvailable : Bool
  /-- Runs the compiler on a task; it may fail to start. -/
  run : CompileTask → Tree → Tree × Except FileError CompilerResult

/-- What a compilation leaves behind, with the number of shaders compiled. -/
structure Compilation where
  tree : Tree
  notices : List Notice
  outcome : Except Failure Nat

namespace Compiler

/-- A compiler that this machine does not have. -/
def missing (name : String) : Compiler := ⟨name, false, fun _ tree => (tree, .error .notFound)⟩

/-- What a compiler has to say about a task. -/
def judge (compiler : Compiler) (task : CompileTask) (result : CompilerResult) : Report Unit := do
  if !result.stdout.isEmpty then
    Report.notice .info .generator ("stdout: " ++ Text.lossy result.stdout)
  if !result.stderr.isEmpty then
    Report.notice .error .generator ("stderr: " ++ Text.lossy result.stderr)
  if !result.succeeded then Report.fail (.notCompiled compiler.name task.shader)

/-- Makes the directory that the output of a task goes to. -/
def prepare (tree : Tree) (task : CompileTask) : Tree × Except FileError Unit :=
  match task.output.parent? with
  | none => (tree, .ok ())
  | some parent => tree.makeDirectories parent

/-- Does one task. -/
def compile (compiler : Compiler) (tree : Tree) (task : CompileTask) : Tree × Report Unit :=
  match prepare tree task with
  | (tree, .error error) => (tree, .fail (.file error))
  | (tree, .ok ()) =>
    match compiler.run task tree with
    | (tree, .error error) => (tree, .fail (.file error))
    | (tree, .ok result) => (tree, compiler.judge task result)

def startNotice (task : CompileTask) : Notice :=
  ⟨.info, .generator, "Compiling shader: " ++ Text.literal task.shader.text⟩

/-- Does tasks in order and counts them. -/
def compileAll (compiler : Compiler) (tree : Tree) : List CompileTask → Compilation
  | [] => ⟨tree, [], .ok 0⟩
  | task :: rest =>
    let (tree, report) := compiler.compile tree task
    let notices := startNotice task :: report.notices
    match report.outcome with
    | .error failure => ⟨tree, notices, .error failure⟩
    | .ok () =>
      let compilation := compiler.compileAll tree rest
      { compilation with
        notices := notices ++ compilation.notices
        outcome := compilation.outcome.map (· + 1) }

def skipNotice (compiler : Compiler) : Notice :=
  ⟨.warning, .generator, s!"{compiler.name} compiler not found, skip shader compile check"⟩

/-- Compiles all shaders below a source directory into a build directory. -/
def compileDirectory (compiler : Compiler) (tree : Tree) (source build : Path) : Compilation :=
  if compiler.isAvailable then
    compiler.compileAll tree (CompileTask.collect tree source build)
  else ⟨tree, [compiler.skipNotice], .ok 0⟩

end Compiler

end ShaderLayout
