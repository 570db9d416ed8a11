import ShaderLayout.Bindings.Member
import ShaderLayout.Field.Value

/-!
Memory images of host structures: the members one behind the other, each field
as its host type lies in memory and each padding member as zeros.
-/

namespace ShaderLayout

namespace Bindings

/-- The image of members whose fields take the values in order. -/
def image : List Member → List FieldValue → List UInt8
  | [], _ => []
  | .padding _ words :: members, values =>
    List.replicate (4 * words) 0 ++ image members values
  | .field _ _ :: members, value :: values => value.hostBytes ++ image members values
  | .field _ type :: members, [] => List.replicate type.hostSize 0 ++ image members []

end Bindings

namespace FieldValue

/-- The bits of the float one. -/
def oneBits : UInt32 := 0x3f800000

/-- The identity matrix. -/
def identity : FieldValue :=
  { type := .float4x4
    words := (List.range 16).map fun place => if place % 5 = 0 then oneBits else 0
    length_words := by decide }

end FieldValue

end ShaderLayout
