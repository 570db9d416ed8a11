import ShaderLayout.Error
import ShaderLayout.Field.Value
import ShaderLayout.Layout.Block

/-!
Reading and writing blocks in memory. A buffer is a list of bytes; the words of
a field lie where the layout puts its components, the lowest byte first. A write
touches the bytes of those words and no other byte.
-/

namespace ShaderLayout

/-- The word whose lowest byte is at `offset`; bytes outside the buffer count as zero. -/
def wordAt (bytes : List UInt8) (offset : Nat) : UInt32 :=
  (bytes.getD offset 0).toUInt32 ||| (bytes.getD (offset + 1) 0).toUInt32 <<< 8 |||
    (bytes.getD (offset + 2) 0).toUInt32 <<< 16 ||| (bytes.getD (offset + 3) 0).toUInt32 <<< 24

/-- Puts a word at `offset`; bytes outside the buffer are dropped. -/
def setWord (bytes : List UInt8) (offset : Nat) (word : UInt32) : List UInt8 :=
  (((bytes.set offset word.toUInt8).set (offset + 1) (word >>> 8).toUInt8).set
    (offset + 2) (word >>> 16).toUInt8).set (offset + 3) (word >>> 24).toUInt8

namespace FieldLayout

/-- Where the words of the field lie in the block. -/
def wordOffsets (field : FieldLayout) : List Nat :=
  field.type.componentOffsets.map (field.offset + ·)

def readFrom (field : FieldLayout) (bytes : List UInt8) : FieldValue :=
  { type := field.type
    words := field.wordOffsets.map (wordAt bytes)
    length_words := by simp [wordOffsets] }

/-- Puts words at offsets, one after the other. -/
def setWords (bytes : List UInt8) : List Nat → List UInt32 → List UInt8
  | offset :: offsets, word :: words => setWords (setWord bytes offset word) offsets words
  | _, _ => bytes

def writeTo (field : FieldLayout) (bytes : List UInt8) (value : FieldValue) : List UInt8 :=
  setWords bytes field.wordOffsets value.words

end FieldLayout

namespace BlockLayout

/-- The field of that name, in a buffer of `length` bytes that has to hold the whole block. -/
def locate (layout : BlockLayout) (length : Nat) (name : String) :
    Except LayoutError FieldLayout :=
  if length < layout.size then
    .error (.bufferTooSmall layout.name layout.size length)
  else match layout.field? name with
    | some field => .ok field
    | none => .error (.unknownField layout.name name)

/-- Reads a field of the block at the start of a buffer. -/
def readField (layout : BlockLayout) (bytes : List UInt8) (name : String) :
    Except LayoutError FieldValue := do
  let field ← layout.locate bytes.length name
  return field.readFrom bytes

/-- The buffer after a write to a field of the block at its start; padding keeps its bytes. -/
def writeField (layout : BlockLayout) (bytes : List UInt8) (name : String) (value : FieldValue) :
    Except LayoutError (List UInt8) := do
  let field ← layout.locate bytes.length name
  if value.type ≠ field.type then
    throw (.typeMismatch layout.name name field.type value.type)
  return field.writeTo bytes value

/-- Reads a field of one element of an array of blocks. -/
def readElementField (layout : BlockLayout) (bytes : List UInt8) (element : Nat) (name : String) :
    Except LayoutError FieldValue :=
  let start := element * layout.size
  if bytes.length < start then
    .error (.bufferTooSmall layout.name (start + layout.size) bytes.length)
  else layout.readField (bytes.drop start) name

end BlockLayout

end ShaderLayout
