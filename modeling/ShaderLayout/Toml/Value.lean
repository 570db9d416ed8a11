import ShaderLayout.Toml.Fault

/-!
TOML values. A table remembers how it came to be, because that decides which
later lines may add to it: a table with a header or between braces is closed, a
table that a header or a dotted key only passed through is still open to headers
or to dotted keys.
-/

namespace ShaderLayout.Toml

/-- How a table came to be. -/
inductive Origin where
  /-- Opened by a header of its own. -/
  | header
  /-- Passed through by the header of a table inside it. -/
  | implicit
  /-- Passed through by a dotted key. -/
  | dotted
  /-- Written between braces. -/
  | inline
  deriving DecidableEq, Repr

inductive Value where
  | string (text : String)
  | integer (value : Int)
  /-- A float; no reader of these documents takes one, so its value is not kept. -/
  | float
  | boolean (value : Bool)
  /-- A date, a time or both; not kept either. -/
  | datetime
  /-- An array, open when it is made of tables with headers. -/
  | array (isOpen : Bool) (items : List Value)
  | table (origin : Origin) (entries : List (String × Value))
  deriving Repr

abbrev Entries := List (String × Value)

namespace Entries

def get? (entries : Entries) (key : String) : Option Value :=
  entries.lookup key

/-- Sets the value of a key, in its old place or at the end. -/
def put : Entries → String → Value → Entries
  | [], key, value => [(key, value)]
  | entry :: entries, key, value =>
    if entry.1 = key then (key, value) :: entries else entry :: put entries key value

/-- Adds a key, which must be new. -/
def insert (entries : Entries) (key : String) (value : Value) : Except Fault Entries :=
  match entries.get? key with
  | some _ => .error (.duplicateKey key)
  | none => .ok (entries ++ [(key, value)])

end Entries

end ShaderLayout.Toml
