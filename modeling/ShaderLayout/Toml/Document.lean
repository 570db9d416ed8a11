import ShaderLayout.Toml.Value

/-!
TOML documents. A document is a list of statements: headers, which choose the
current table, and pairs, which add to it. Building the document puts every
value in its place and refuses statements that define something twice.
-/

namespace ShaderLayout.Toml

inductive Statement where
  /-- `[path]`: opens a table. -/
  | header (path : List String) (key : String)
  /-- `[[path]]`: appends a table to an array. -/
  | element (path : List String) (key : String)
  /-- `path = value`, in the current table. -/
  | pair (path : List String) (key : String) (value : Value)
  deriving Repr

/-- Changes the entries of the table at the end of `path`. Tables that are not there yet come
to be, and an array of tables stands for its last table. Dotted keys do not lead into tables
with a header, and nothing leads into a table between braces. -/
def updateAt (isDotted : Bool) (change : Origin → Entries → Except Fault (Origin × Entries)) :
    List String → Origin → Entries → Except Fault (Origin × Entries)
  | [], origin, entries => change origin entries
  | key :: path, origin, entries => do
    match entries.get? key with
    | none =>
      let (inner, child) ← updateAt isDotted change path
        (if isDotted then .dotted else .implicit) []
      return (origin, entries.put key (.table inner child))
    | some (.table .inline _) => throw (.notTable key)
    | some (.table inner child) =>
      if isDotted && inner = .header then throw (.duplicateKey key)
      let (inner, child) ← updateAt isDotted change path inner child
      return (origin, entries.put key (.table inner child))
    | some (.array true items) =>
      match items.getLast? with
      | some (.table inner child) =>
        let (inner, child) ← updateAt isDotted change path inner child
        return (origin, entries.put key (.array true (items.dropLast ++ [.table inner child])))
      | _ => throw (.notTable key)
    | some _ => throw (.notTable key)

/-- Adds a pair to a table. A pair with a dotted key adds to tables made by dotted keys only. -/
def addPair (path : List String) (key : String) (value : Value) (origin : Origin)
    (entries : Entries) : Except Fault (Origin × Entries) :=
  updateAt true (fun reached inner => do
    if path ≠ [] ∧ reached ≠ .dotted then throw (.duplicateKey key)
    return (reached, ← inner.insert key value)) path origin entries

/-- Opens a table inside another: a new one, or one that a header passed through. -/
def openTable (key : String) (origin : Origin) (entries : Entries) :
    Except Fault (Origin × Entries) :=
  match entries.get? key with
  | none => .ok (origin, entries.put key (.table .header []))
  | some (.table .implicit child) => .ok (origin, entries.put key (.table .header child))
  | some _ => .error (.duplicateKey key)

/-- Appends a table to an array of tables inside another table. -/
def appendTable (key : String) (origin : Origin) (entries : Entries) :
    Except Fault (Origin × Entries) :=
  match entries.get? key with
  | none => .ok (origin, entries.put key (.array true [.table .header []]))
  | some (.array true items) =>
    .ok (origin, entries.put key (.array true (items ++ [.table .header []])))
  | some _ => .error (.duplicateKey key)

/-- A document under construction: its entries and the path of the current table. -/
structure Draft where
  entries : Entries
  current : List String

namespace Draft

/-- Changes the table at the end of a path that headers use. -/
def update (draft : Draft) (path : List String)
    (change : Origin → Entries → Except Fault (Origin × Entries)) : Except Fault Entries := do
  return (← updateAt false change path .header draft.entries).2

def add (draft : Draft) : Statement → Except Fault Draft
  | .header path key => do
    return ⟨← draft.update path (openTable key), path ++ [key]⟩
  | .element path key => do
    return ⟨← draft.update path (appendTable key), path ++ [key]⟩
  | .pair path key value => do
    return ⟨← draft.update draft.current (addPair path key value), draft.current⟩

end Draft

/-- The entries of the document that the statements make up. -/
def Entries.ofStatements (statements : List Statement) : Except Fault Entries := do
  return (← statements.foldlM Draft.add ⟨[], []⟩).entries

/-- The table between braces with the given pairs. -/
def Value.ofPairs (pairs : List (List String × String × Value)) : Except Fault Value := do
  let (_, entries) ← pairs.foldlM
    (fun (origin, entries) (path, key, value) => addPair path key value origin entries)
    (.inline, [])
  return .table .inline entries

end ShaderLayout.Toml
