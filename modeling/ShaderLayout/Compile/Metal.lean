import ShaderLayout.Compile.Compiler
import ShaderLayout.Config.Basic

/-!
Compilation of Metal shaders. Their compiler belongs to a development kit and is
reached through one command of the machine, which is asked for it first. On a
machine without the command there is no compiler.
-/

namespace ShaderLayout

/-- A command of the machine. It runs with arguments on a tree of files, and may fail to start. -/
structure Command where
  run : List String → Tree → Tree × Except FileError CompilerResult

/-- A command that this machine does not have. -/
def Command.missing : Command := ⟨fun _ tree => (tree, .error .notFound)⟩

namespace Compiler

/-- The arguments that ask for the compiler of a kit. -/
def findArguments (sdk : String) : List String := ["-sdk", sdk, "--find", "metal"]

/-- The arguments that compile a shader; what it includes is looked for in some directories. -/
def compileArguments (sdk : String) (includes : List Path) (task : CompileTask) : List String :=
  ["-sdk", sdk, "metal", "-c"] ++ includes.flatMap (fun directory => ["-I", directory.text]) ++
    ["-o", task.output.text, task.shader.text]

/-- Whether a command started and succeeded. -/
def answers : Except FileError CompilerResult → Bool
  | .ok result => result.succeeded
  | .error _ => false

/-- The compiler of a kit. -/
def metal (command : Command) (sdk : String) (includes : List Path) (isAvailable : Bool) :
    Compiler where
  name := "metal"
  isAvailable := isAvailable
  run task := command.run (compileArguments sdk includes task)

end Compiler

/-- Compiles all shaders with the compiler of the kit, if there is one. -/
def MetalOptions.compileShaders (options : MetalOptions) (command : Command)
    (includes : List Path) (tree : Tree) : Compilation :=
  let (asked, answer) := command.run (Compiler.findArguments options.sdk) tree
  (Compiler.metal command options.sdk includes (Compiler.answers answer)).compileDirectory asked
    options.sourceDirectory options.buildDirectory

end ShaderLayout
