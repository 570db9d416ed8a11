import ShaderLayout.Name.Rendering

/-!
Names that all targets can take. A name is accepted when it is an identifier,
is not reserved for generated padding or for the compilers, and neither it nor
its Pascal and camel renderings is a keyword of a target language.
-/

namespace ShaderLayout.Name

def startsIdentifier (c : Char) : Bool :=
  c.isAlpha || c == '_'

def inIdentifier (c : Char) : Bool :=
  c.isAlphanum || c == '_'

/-- A letter or an underscore, then letters, digits and underscores, all of them ASCII. -/
def isIdentifier : List Char → Bool
  | [] => false
  | c :: cs => startsIdentifier c && cs.all inIdentifier

/-- Keywords and reserved words of Rust, WGSL and MSL. -/
def reservedWords : List String := [
  "Self", "abstract", "alignas", "alignof", "and", "as", "asm", "async", "auto", "await", "become",
  "bitcast", "bool", "box", "break", "case", "catch", "char", "class", "const", "const_assert",
  "const_cast", "constant", "constexpr", "continue", "continuing", "crate", "default", "delete",
  "device", "diagnostic", "discard", "do", "double", "dyn", "else", "enable", "enum", "explicit",
  "export", "extern", "f16", "f32", "f64", "false", "final", "fn", "for", "friend", "goto", "half",
  "i32", "i64", "if", "impl", "in", "inline", "int", "kernel", "let", "long", "loop", "macro",
  "match", "mod", "move", "mut", "namespace", "new", "not", "or", "override", "priv", "private",
  "protected", "ptr", "pub", "ref", "register", "requires", "return", "self", "short", "signed",
  "sizeof", "static", "static_assert", "struct", "super", "switch", "template", "this", "thread",
  "threadgroup", "throw", "trait", "true", "try", "type", "typedef", "typename", "typeof", "u32",
  "u64", "union", "unsafe", "unsigned", "unsized", "use", "using", "var", "vertex", "virtual",
  "void", "volatile", "where", "while", "yield"]

def isReserved (word : String) : Bool :=
  reservedWords.contains word

/-- `__` is kept for compilers, `_pad` for generated padding members. -/
def startsReserved (name : List Char) : Bool :=
  "__".toList.isPrefixOf name || "_pad".toList.isPrefixOf name

/-- Whether a name may stand in a schema. -/
def isAccepted (name : String) : Bool :=
  isIdentifier name.toList && !startsReserved name.toList && !(pascalChars name).isEmpty &&
    !isReserved name && !isReserved (pascal name) && !isReserved (camel name)

end ShaderLayout.Name
