import ShaderLayout.File.Error
import ShaderLayout.File.Name
import ShaderLayout.File.Path

/-!
A tree of files and directories, as a map from locations to entries. A path is
followed step by step from the root, so that two paths may lead to one location.
Files and directories come in by `insert` alone, and its two laws say what it
does to `get?`.
-/

namespace ShaderLayout

inductive Entry where
  | file (content : ByteArray)
  | directory

/-- Whether two entries are directories or files of one content. -/
def Entry.same : Entry → Entry → Bool
  | .file content, .file other => content.data = other.data
  | .directory, .directory => true
  | _, _ => false

/-- A tree of files. The root is a directory that is always there; no other location is listed
twice. -/
structure Tree where
  entries : List (Location × Entry)
  distinct : (entries.map Prod.fst).Nodup

/-- Where a path leads. -/
inductive Place where
  | taken (location : Location) (entry : Entry)
  /-- Nothing is there, but the directory above is. -/
  | free (location : Location)

namespace Tree

def empty : Tree := ⟨[], .nil⟩

def get? (tree : Tree) (location : Location) : Option Entry :=
  if location = [] then some .directory
  else (tree.entries.find? fun (at_, _) => at_ == location).map Prod.snd

/-- Keeps the entries whose location passes a test. -/
def restrict (tree : Tree) (keep : Location → Bool) : Tree where
  entries := tree.entries.filter fun (location, _) => keep location
  distinct := tree.distinct.sublist (List.filter_sublist.map Prod.fst)

/-- Removes an entry with all that is below it. -/
def erase (tree : Tree) (location : Location) : Tree :=
  tree.restrict fun other => !location.isPrefixOf other

/-- Puts an entry at a location, in place of what was there. -/
def insert (tree : Tree) (location : Location) (entry : Entry) : Tree where
  entries := (location, entry) :: (tree.restrict (· != location)).entries
  distinct := by
    have others : location ∉ (tree.restrict (· != location)).entries.map Prod.fst := by
      simp [restrict]
    simpa using ⟨by simpa using others, (tree.restrict (· != location)).distinct⟩

@[simp] theorem get?_root (tree : Tree) : tree.get? [] = some .directory := rfl

theorem get?_insert_self (tree : Tree) {location : Location} (entry : Entry)
    (h : location ≠ []) : (tree.insert location entry).get? location = some entry := by
  simp [get?, insert, h]

theorem get?_insert_of_ne (tree : Tree) {location other : Location} (entry : Entry)
    (h : other ≠ location) : (tree.insert location entry).get? other = tree.get? other := by
  have hne : (location == other) = false := by simpa using Ne.symm h
  have same : (fun at_ : Location × Entry =>
      decide ((at_.1 != location) = true ∧ (at_.1 == other) = true)) =
      fun at_ => at_.1 == other := by
    funext at_
    by_cases hat : at_.1 = other <;> simp [hat, h]
  simp only [get?, Tree.insert, restrict, List.find?_cons, hne, List.find?_filter, same]

/-! ### Following a path -/

/-- Follows steps from a directory. A file on the way is no directory to go on from. -/
def follow (tree : Tree) (here : Location) : List String → Except FileError Place
  | [] => .ok (.taken here .directory)
  | step :: rest =>
    if step = "." then tree.follow here rest
    else if step = ".." then tree.follow here.dropLast rest
    else
      match FileName.ofText? step with
      | none => .error .nulInPath
      | some name =>
        let next := here ++ [name]
        match tree.get? next, rest with
        | some .directory, _ => tree.follow next rest
        | some (.file content), [] => .ok (.taken next (.file content))
        | some (.file _), _ :: _ => .error .notDirectory
        | none, [] => .ok (.free next)
        | none, _ :: _ => .error .notFound

/-- Follows steps from the root. A step with a character that no name can hold is refused before
anything is looked up. -/
def locate (tree : Tree) (steps : List String) : Except FileError Place :=
  if steps.any (·.toList.contains '\x00') then .error .nulInPath else tree.follow [] steps

/-! ### Reading -/

/-- The content of the file that a path leads to. A path that ends in a slash asks for a
directory. -/
def read (tree : Tree) (path : Path) : Except FileError ByteArray := do
  match ← tree.locate path.steps with
  | .taken _ (.file content) => if path.endsInSlash then throw .notDirectory else return content
  | .taken _ .directory => throw .isDirectory
  | .free _ => throw .notFound

def readText (tree : Tree) (path : Path) : Except FileError String := do
  match String.fromUTF8? (← tree.read path) with
  | some text => return text
  | none => throw .notText

/-- Whether a path leads to a file or directory. The empty path leads nowhere. -/
def hasEntry (tree : Tree) (path : Path) : Bool :=
  match tree.locate path.steps with
  | .ok (.taken _ (.file _)) => !path.endsInSlash
  | .ok (.taken _ .directory) => !path.text.isEmpty
  | _ => false

/-! ### Changing -/

/-- Writes a file, in place of one that may be there. The directory it goes to has to be there. -/
def write (tree : Tree) (path : Path) (content : ByteArray) : Except FileError Tree := do
  let writeAt (location : Location) : Except FileError Tree :=
    if path.endsInSlash then .error .isDirectory
    else .ok (tree.insert location (.file content))
  match ← tree.locate path.steps with
  | .taken _ .directory => throw .isDirectory
  | .taken location (.file _) => writeAt location
  | .free location => writeAt location

/-- Makes one directory. -/
def makeDirectoryAt (tree : Tree) (steps : List String) : Except FileError Tree := do
  match ← tree.locate steps with
  | .taken .. => throw .alreadyExists
  | .free location => return tree.insert location .directory

def isDirectoryAt (tree : Tree) (steps : List String) : Bool :=
  match tree.locate steps with
  | .ok (.taken _ .directory) => true
  | _ => false

/-- Makes the directory at the end of reversed steps, after those above it that are missing. The
directories made before an error stay. -/
def makeDirectoriesAt (tree : Tree) : List String → Tree × Except FileError Unit
  | [] => (tree, .ok ())
  | step :: above =>
    let steps := (step :: above).reverse
    match tree.makeDirectoryAt steps with
    | .ok made => (made, .ok ())
    | .error .notFound =>
      match tree.makeDirectoriesAt above with
      | (tree, .error error) => (tree, .error error)
      | (tree, .ok ()) =>
        match tree.makeDirectoryAt steps with
        | .ok made => (made, .ok ())
        | .error error =>
          (tree, if tree.isDirectoryAt steps then .ok () else .error error)
    | .error .alreadyExists =>
      (tree, if tree.isDirectoryAt steps then .ok () else .error .alreadyExists)
    | .error error => (tree, .error error)

/-- Makes a directory and those above it, as far as they are missing. -/
def makeDirectories (tree : Tree) (path : Path) : Tree × Except FileError Unit :=
  tree.makeDirectoriesAt (path.steps.filter (· != ".")).reverse

/-- Puts a file at a path, with the directories above it. A tree where it cannot be stays without
it. -/
def place (tree : Tree) (path : Path) (content : ByteArray) : Tree :=
  let tree := (tree.makeDirectories (path.parent?.getD path)).1
  match tree.write path content with
  | .ok written => written
  | .error _ => tree

/-- Removes what a path leads to, if there is anything. -/
def remove (tree : Tree) (path : Path) : Tree :=
  match tree.locate path.steps with
  | .ok (.taken location _) => tree.erase location
  | _ => tree

/-! ### Views -/

/-- The files with their contents. -/
def files (tree : Tree) : List (Location × ByteArray) :=
  tree.entries.filterMap fun (location, entry) =>
    match entry with
    | .file content => some (location, content)
    | .directory => none

/-- The files at or below a location, each by the names that lead there from it. -/
def filesBelow (tree : Tree) (location : Location) : List Location :=
  tree.files.filterMap fun (other, _) =>
    if location.isPrefixOf other then some (other.drop location.length) else none

/-- How a tree differs from an earlier one: the entries that are new or other than before, and the
locations where there is nothing any more. -/
def changesFrom (before after : Tree) : List (Location × Option Entry) :=
  let changed := after.entries.filter fun (location, entry) =>
    !(before.get? location).any entry.same
  let gone := before.entries.filter fun (location, _) => (after.get? location).isNone
  changed.map (fun (location, entry) => (location, some entry)) ++
    gone.map fun (location, _) => (location, none)

end Tree

end ShaderLayout
