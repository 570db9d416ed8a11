import ShaderLayout.Program.Execution

/-!
The program on a real disk. It looks up the files that a run asks for, lets the
run work on that tree of files, and brings the disk to what comes out. The
workspace is the directory it is started in.
-/

namespace ShaderLayout.Main

/-- What is on the disk at a place whose parent is a directory. -/
def look (path : String) : IO (Option Entry) := do
  try
    return some (.file (← IO.FS.readBinFile path))
  catch
    | .noFileOrDirectory .. => return none
    | .inappropriateType .. => return some .directory
    | error => throw error

/-- Adds what is on the disk from a directory on, along some names. -/
def lookAlong (tree : Tree) (here : Path) : List String → IO Tree
  | [] => return tree
  | name :: rest => do
    let path := here.child name
    match ← look path.text with
    | none => return tree
    | some (.file content) => return tree.place path content
    | some .directory => lookAlong (tree.makeDirectories path).1 path rest

def lookUp (tree : Tree) (paths : List Path) : IO Tree :=
  paths.foldlM (fun tree path => lookAlong tree ⟨"/"⟩ path.steps) tree

/-- Looks up the configuration of a run and the files that it names. -/
def gather (workspace : Workspace) (request : Request) : IO Tree := do
  let configFile := match request.configFile with
    | some path => workspace.resolve path
    | none => workspace.configFile
  let tree ← lookUp .empty [configFile]
  match (Plan.loadConfig workspace tree request.configFile).outcome with
  | .error _ => return tree
  | .ok config => lookUp tree (config.schema :: config.outputs.map (·.path))

/-- Brings the disk to a change. -/
def settle : Location × Option Entry → IO Unit
  | (location, some .directory) => IO.FS.createDirAll ("/" ++ location.text)
  | (location, some (.file content)) => do
    IO.FS.createDirAll ("/" ++ Location.text location.dropLast)
    IO.FS.writeBinFile ("/" ++ location.text) content
  | (_, none) => return ()

def noticeLine (notice : Notice) : String :=
  s!"{notice.level.name} [{notice.source.name}] {notice.text}"

def run (arguments : List String) : IO UInt32 := do
  let workspace : Workspace := ⟨⟨(← IO.currentDir).toString⟩⟩
  let tree ← match Invocation.ofArguments arguments with
    | .ok (.run request) => gather workspace request
    | _ => pure .empty
  let execution := execute workspace arguments (← IO.getEnv "PRISM_LOG") tree
  (tree.changesFrom execution.tree).forM settle
  execution.notices.forM fun notice => IO.eprintln (noticeLine notice)
  execution.text.forM IO.println
  return execution.exitCode.toUInt32

end ShaderLayout.Main

def main (arguments : List String) : IO UInt32 := ShaderLayout.Main.run arguments
