import ShaderLayout.Program.Arguments

/-!
The program as a whole: arguments, a setting that says how much to tell, a tree
of files and a command of the machine go in; the changed tree, the notices to
show and an exit code come out.
-/

namespace ShaderLayout

/-- The settings of how much to tell, each telling more than the one before. -/
def verbositySettings : List String := ["off", "error", "warn", "info", "debug", "trace"]

/-- The rank down to which notices are shown. Letters count the same in both cases; without a
known setting, notices are shown down to the informative ones. -/
def verbosity (setting : Option String) : Nat :=
  match setting.bind fun setting => verbositySettings.idxOf? setting.toLower with
  | some rank => rank
  | none => NoticeLevel.info.rank

structure Execution where
  tree : Tree
  notices : List Notice
  exitCode : Nat
  /-- What is printed besides notices. -/
  text : Option String

def helpText : String :=
  "Generate shader layout declarations from layout.toml\n\n" ++
    "Usage: shader-gen [OPTIONS] [CONFIG]"

/-- The notices of an outcome, with its failure as the last. -/
def Outcome.allNotices (outcome : Outcome) : List Notice :=
  outcome.notices ++ outcome.failure.toList.map fun failure =>
    ⟨.error, .program, failure.message⟩

def Outcome.exitCode (outcome : Outcome) : Nat := if outcome.failure.isSome then 1 else 0

/-- Runs the program with arguments. -/
def executeWith (command : Command) (workspace : Workspace) (arguments : List String)
    (setting : Option String) (tree : Tree) : Execution :=
  match Invocation.ofArguments arguments with
  | .error fault => ⟨tree, [], 2, some fault.message⟩
  | .ok .help => ⟨tree, [], 0, some helpText⟩
  | .ok (.run request) =>
    let outcome := request.run command workspace tree
    let shown := outcome.allNotices.filter fun notice =>
      notice.level.rank ≤ verbosity setting
    ⟨outcome.tree, shown, outcome.exitCode, none⟩

/-- Runs the program on a machine without a compiler of shaders. -/
def execute (workspace : Workspace) (arguments : List String) (setting : Option String)
    (tree : Tree) : Execution :=
  executeWith .missing workspace arguments setting tree

end ShaderLayout
