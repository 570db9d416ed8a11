/-!
Renderings of a schema name. A schema writes names with underscores or with
inner capitals; each target language has its own habit. A name is cut into
words once, and the three renderings put the words together again: Pascal case
for types and enumerators, camel case for members, capitals with underscores
for constants. Letters outside ASCII are left as they are.
-/

namespace ShaderLayout.Name

/-- A word goes on from `a` to `b` unless a capital follows a small letter or a digit. -/
def continues (a b : Char) : Bool :=
  !((a.isLower || a.isDigit) && b.isUpper)

/-- The words of a name: cut at every underscore and before every inner capital. -/
def words (name : String) : List (List Char) :=
  (name.toList.splitOn '_').flatMap (List.splitBy continues)

/-- A capital first, small letters after it. -/
def capitalize : List Char → List Char
  | [] => []
  | c :: cs => c.toUpper :: cs.map Char.toLower

/-- A small letter first, the rest as it is. -/
def uncapitalize : List Char → List Char
  | [] => []
  | c :: cs => c.toLower :: cs

def pascalChars (name : String) : List Char :=
  (words name).flatMap capitalize

/-- `frame_uniforms` becomes `FrameUniforms`. -/
def pascal (name : String) : String :=
  String.ofList (pascalChars name)

/-- `inverse_view` becomes `inverseView`. -/
def camel (name : String) : String :=
  String.ofList (uncapitalize (pascalChars name))

/-- `MeshVertex` becomes `MESH_VERTEX`. -/
def shouty (name : String) : String :=
  String.ofList (['_'].intercalate ((words name).map fun word => word.map Char.toUpper))

@[simp] theorem toList_pascal (name : String) : (pascal name).toList = pascalChars name := by
  simp [pascal]

@[simp] theorem toList_camel (name : String) :
    (camel name).toList = uncapitalize (pascalChars name) := by
  simp [camel]

@[simp] theorem toList_shouty (name : String) :
    (shouty name).toList = ['_'].intercalate ((words name).map fun word => word.map Char.toUpper) := by
  simp [shouty]

end ShaderLayout.Name
