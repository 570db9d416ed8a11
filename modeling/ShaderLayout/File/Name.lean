/-!
Names of files and directories: what can stand between two slashes of a path and
means an entry of the directory before it.
-/

namespace ShaderLayout

def isFileName (text : String) : Bool :=
  text ≠ "" ∧ text ≠ "." ∧ text ≠ ".." ∧ '/' ∉ text.toList ∧ '\x00' ∉ text.toList

@[ext] structure FileName where
  text : String
  valid : isFileName text = true
  deriving DecidableEq, Repr

namespace FileName

def ofText? (text : String) : Option FileName :=
  if valid : isFileName text then some ⟨text, valid⟩ else none

end FileName

/-- The names that lead from the root to an entry, without any detour. -/
abbrev Location := List FileName

namespace Location

/-- The names as one text. -/
def text (location : Location) : String := "/".intercalate (location.map (·.text))

end Location

end ShaderLayout
