import ShaderLayout.Compile.Metal
import ShaderLayout.Output.Writing
import ShaderLayout.Program.Plan

/-!
A run of the program on a tree of files. After its preparation it either
compares the files with the tree, or writes them and compiles the shaders that
include them.
-/

namespace ShaderLayout

/-- What a run is asked to do. -/
structure Request where
  configFile : Option Path
  /-- Whether to compare only. -/
  check : Bool
  deriving DecidableEq, Repr

/-- What a run leaves behind. -/
structure Outcome where
  tree : Tree
  notices : List Notice
  failure : Option Failure

namespace Plan

def staleNotice (path : Path) : Notice := ⟨.error, .program, s!"out of date: {path.text}"⟩

/-- Compares the files with the tree. -/
def compare (plan : Plan) (tree : Tree) : Report Unit := do
  let stale := GeneratedFile.stale tree plan.files
  Report.give (stale.map staleNotice)
  if stale ≠ [] then Report.fail (.outOfDate stale.length)
  Report.notice .info .program "All generated files are up to date."

/-- The directories of the headers, where shaders look for what they include. -/
def includeDirectories (plan : Plan) : List Path :=
  (plan.files.filter fun file => file.target = .msl).filterMap fun file => file.path.parent?

/-- Compiles the shaders, if the configuration asks for it. -/
def compileShaders (plan : Plan) (command : Command) (tree : Tree) : Compilation :=
  let options := plan.config.metal
  if options.compile then
    let compilation := options.compileShaders command plan.includeDirectories tree
    match compilation.outcome with
    | .error _ => compilation
    | .ok count =>
      { compilation with
        notices := compilation.notices ++
          [⟨.info, .program, s!"Compiled {count} Metal shader(s)."⟩] }
  else ⟨tree, [], .ok 0⟩

def completionNotice : Notice := ⟨.info, .program, "Shader generation completed."⟩

/-- Writes the files, then compiles. -/
def carryOut (plan : Plan) (command : Command) (tree : Tree) : Outcome :=
  let writing := GeneratedFile.writeAll tree plan.files
  match writing.failure with
  | some failure => ⟨writing.tree, writing.notices, some failure⟩
  | none =>
    let compilation := plan.compileShaders command writing.tree
    let notices := writing.notices ++ compilation.notices
    match compilation.outcome with
    | .error failure => ⟨compilation.tree, notices, some failure⟩
    | .ok _ => ⟨compilation.tree, notices ++ [completionNotice], none⟩

end Plan

namespace Report

/-- The outcome of work that leaves the tree as it is. -/
def onTree (report : Report α) (tree : Tree) : Outcome :=
  match report.outcome with
  | .ok _ => ⟨tree, report.notices, none⟩
  | .error failure => ⟨tree, report.notices, some failure⟩

end Report

/-- Runs the program; `command` is what the machine has to reach the compiler of shaders. -/
def Request.run (request : Request) (command : Command) (workspace : Workspace) (tree : Tree) :
    Outcome :=
  let preparation := Plan.prepare workspace tree request.configFile
  match preparation.outcome with
  | .error failure => ⟨tree, preparation.notices, some failure⟩
  | .ok plan =>
    let outcome :=
      if request.check then (plan.compare tree).onTree tree else plan.carryOut command tree
    { outcome with notices := preparation.notices ++ outcome.notices }

end ShaderLayout
