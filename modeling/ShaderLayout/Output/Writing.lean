import ShaderLayout.File.Tree
import ShaderLayout.Output.Generated

/-!
Writing generated files. Files are written one after another, and one whose
content is already there is left alone, so that nothing that depends on it is
built again. Writing ends at the first failure; what was written before stays.
-/

namespace ShaderLayout

/-- What a writing leaves behind. -/
structure Writing where
  tree : Tree
  /-- The paths written, in order. -/
  written : List Path
  notices : List Notice
  failure : Option Failure

namespace GeneratedFile

/-- Whether the tree holds just the content of the file. -/
def isUpToDate (tree : Tree) (file : GeneratedFile) : Bool :=
  match tree.readText file.path with
  | .ok text => text = file.content
  | .error _ => false

/-- The paths whose files are missing or hold something else. -/
def stale (tree : Tree) (files : List GeneratedFile) : List Path :=
  (files.filter fun file => !file.isUpToDate tree).map (·.path)

/-- Makes the directory that a file goes to. -/
def prepare (tree : Tree) (file : GeneratedFile) : Tree × Except Failure Unit :=
  match file.path.parent? with
  | none => (tree, .ok ())
  | some parent =>
    let (tree, made) := tree.makeDirectories parent
    (tree, made.mapError (.directoryNotMade parent))

/-- Writes one file. -/
def write (tree : Tree) (file : GeneratedFile) : Tree × Except Failure Unit :=
  match file.prepare tree with
  | (tree, .error failure) => (tree, .error failure)
  | (tree, .ok ()) =>
    match tree.write file.path file.content.toUTF8 with
    | .ok written => (written, .ok ())
    | .error error => (tree, .error (.notWritten file.path error))

def unchangedNotice (file : GeneratedFile) : Notice :=
  ⟨.info, .generator, s!"unchanged: {file.path.text}"⟩

def writtenNotice (file : GeneratedFile) : Notice :=
  ⟨.info, .generator, s!"generated: {file.path.text}"⟩

/-- Writes the files that are not up to date, each as the earlier ones left the tree. -/
def writeAll (tree : Tree) : List GeneratedFile → Writing
  | [] => ⟨tree, [], [], none⟩
  | file :: rest =>
    if file.isUpToDate tree then
      let writing := writeAll tree rest
      { writing with notices := file.unchangedNotice :: writing.notices }
    else
      match file.write tree with
      | (tree, .error failure) => ⟨tree, [], [], some failure⟩
      | (tree, .ok ()) =>
        let writing := writeAll tree rest
        { writing with
          written := file.path :: writing.written
          notices := file.writtenNotice :: writing.notices }

end GeneratedFile

end ShaderLayout
