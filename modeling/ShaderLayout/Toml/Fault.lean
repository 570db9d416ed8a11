/-! Why a TOML document is refused. -/

namespace ShaderLayout.Toml

inductive Fault where
  /-- The text is not TOML. -/
  | malformed
  /-- A key is given twice, or a table is opened twice. -/
  | duplicateKey (key : String)
  /-- A key leads through a value that is not a table. -/
  | notTable (key : String)
  /-- A value of another kind was expected. -/
  | unexpected (expected : String)
  | missingKey (key : String)
  deriving DecidableEq, Repr

def Fault.message : Fault → String
  | .malformed => "the text is not a TOML document"
  | .duplicateKey key => s!"duplicate key `{key}`"
  | .notTable key => s!"`{key}` is not a table"
  | .unexpected expected => s!"expected {expected}"
  | .missingKey key => s!"missing field `{key}`"

end ShaderLayout.Toml
