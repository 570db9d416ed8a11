/-!
Paths as text. Nothing is normalised: joining puts texts together, and taking
apart cuts them. Pieces between slashes that are empty or a single dot lead
nowhere; they are skipped at the end of a path but kept inside it.
-/

namespace ShaderLayout

structure Path where
  text : String
  deriving DecidableEq, Repr

namespace Path

/-- The pieces of a text between its slashes, of which there is at least one. -/
def pieces : List Char → List (List Char)
  | [] => [[]]
  | c :: rest =>
    if c = '/' then [] :: pieces rest
    else
      match pieces rest with
      | [] => [[c]]
      | piece :: others => (c :: piece) :: others

def ofPieces (pieces : List (List Char)) : Path :=
  if pieces = [[]] then ⟨"/"⟩ else ⟨String.ofList (['/'].intercalate pieces)⟩

/-- A piece that leads nowhere. -/
def isSilent (piece : List Char) : Bool := piece = [] ∨ piece = ['.']

/-- A piece that leads to the directory above. -/
def isUp (piece : List Char) : Bool := piece = ['.', '.']

/-- Drops silent pieces from the front of reversed pieces; the first piece of a path stays. -/
def dropSilent : List (List Char) → List (List Char)
  | [] => []
  | [first] => [first]
  | piece :: rest => if isSilent piece then dropSilent rest else piece :: rest

/-- The pieces of a path up to the last that counts, in reverse. -/
def reversed (path : Path) : List (List Char) := dropSilent (pieces path.text.toList).reverse

def isAbsolute (path : Path) : Bool := path.text.toList.head? = some '/'

def endsInSlash (path : Path) : Bool := path.text.toList.getLast? = some '/'

/-- The path that `path` means when it starts from `base`. -/
def join (base path : Path) : Path :=
  if path.isAbsolute then path
  else if base.text.isEmpty || base.endsInSlash then ⟨base.text ++ path.text⟩
  else ⟨base.text ++ "/" ++ path.text⟩

/-- The path with a name after it. -/
def child (path : Path) (name : String) : Path := path.join ⟨name⟩

/-- The path without its last piece; the root and the empty path have no parent. -/
def parent? (path : Path) : Option Path :=
  match path.reversed with
  | [] => none
  | [first] => if first = [] then none else some ⟨""⟩
  | _ :: rest => some (ofPieces (dropSilent rest).reverse)

/-- The name at the end of a path, unless it leads nowhere or up. -/
def name? (path : Path) : Option String :=
  match path.reversed with
  | [] => none
  | last :: _ => if isSilent last ∨ isUp last then none else some (String.ofList last)

/-- A name cut at its last dot. A dot at its start cuts nothing off. -/
def splitName (name : List Char) : List Char × Option (List Char) :=
  match name.reverse.span (· ≠ '.') with
  | (_, []) => (name, none)
  | (extension, _ :: stem) =>
    if stem = [] then (name, none) else (stem.reverse, some extension.reverse)

def extension? (path : Path) : Option String := do
  let name ← path.name?
  let extension ← (splitName name.toList).2
  return String.ofList extension

/-- Replaces or adds the extension of the name at the end; a path without one stays. -/
def withExtension (path : Path) (extension : String) : Path :=
  match path.reversed with
  | [] => path
  | last :: rest =>
    if isSilent last ∨ isUp last then path
    else ofPieces (((splitName last).1 ++ '.' :: extension.toList) :: rest).reverse

/-- The names and upward steps that a path takes from its start. -/
def steps (path : Path) : List String :=
  ((pieces path.text.toList).filter fun piece => !piece.isEmpty).map String.ofList

end Path

end ShaderLayout
