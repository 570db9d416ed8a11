import ShaderLayout.Field.Type

/-!
Field values. A value is a type together with the words of its components,
column by column. A float is held by its bit pattern, so that no payload is
lost on the way from host to shader.
-/

namespace ShaderLayout

structure FieldValue where
  type : FieldType
  words : List UInt32
  length_words : words.length = type.componentCount
  deriving DecidableEq, Repr

namespace FieldValue

/-- A value from its words, when there are as many as the type has components. -/
def ofWords? (type : FieldType) (words : List UInt32) : Option FieldValue :=
  if h : words.length = type.componentCount then some ⟨type, words, h⟩ else none

/-- The four bytes of a word, the lowest first. -/
def wordBytes (word : UInt32) : List UInt8 :=
  [word.toUInt8, (word >>> 8).toUInt8, (word >>> 16).toUInt8, (word >>> 24).toUInt8]

@[simp] theorem length_wordBytes (word : UInt32) : (wordBytes word).length = 4 := rfl

/-- The memory image of the host type: the components in order, with a zero word after each
column of the three-column matrix. -/
def hostBytes (value : FieldValue) : List UInt8 :=
  match value.type, value.words with
  | .float3x3, [a, b, c, d, e, f, g, h, i] =>
    [a, b, c, 0, d, e, f, 0, g, h, i, 0].flatMap wordBytes
  | _, words => words.flatMap wordBytes

/-- The columns of a value, each the words of one column. -/
def columns (value : FieldValue) : List (List UInt32) :=
  (List.range value.type.columns).map fun column =>
    (value.words.drop (column * value.type.rows)).take value.type.rows

end FieldValue

end ShaderLayout
