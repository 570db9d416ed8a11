/-! Why a shader module is refused. -/

namespace ShaderLayout.Shader

inductive Fault where
  /-- The text does not follow the grammar. -/
  | malformed
  /-- A name that the language keeps for itself. -/
  | reservedName (name : String)
  | redeclared (name : String)
  /-- A declaration that needs itself. -/
  | recursive (name : String)
  | unknownType (name : String)
  | unknownValue (name : String)
  /-- An attribute that does not exist, is given twice, or does not fit its member. -/
  | badAttribute (name : String)
  /-- A constant, or the length of an array, with a value that cannot stand there. -/
  | badValue
  deriving DecidableEq, Repr

def Fault.message : Fault → String
  | .malformed => "unexpected token"
  | .reservedName name => s!"name `{name}` is a reserved keyword"
  | .redeclared name => s!"redefinition of `{name}`"
  | .recursive name => s!"declaration of `{name}` is recursive"
  | .unknownType name => s!"unknown type: `{name}`"
  | .unknownValue name => s!"no definition in scope for identifier: `{name}`"
  | .badAttribute name => s!"bad attribute `{name}`"
  | .badValue => "the value does not fit"

end ShaderLayout.Shader
