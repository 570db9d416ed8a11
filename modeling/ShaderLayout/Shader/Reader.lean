import ShaderLayout.Shader.Fault
import ShaderLayout.Shader.Token

/-!
Reading of shader modules that only declare data. Such a module is a list of
structures, aliases and constants. Functions, variables and whatever else the
language has are refused here, and of attributes only those that lay out or pass
on members are known. The words for types that the language knows cannot be taken
over by declarations.
-/

namespace ShaderLayout.Shader

/-- Words that no declaration and no member may have as a name. -/
def reservedNames : List String := [
  "array", "atomic", "bool", "f32", "f16", "i32", "i64", "mat2x2", "mat2x3", "mat2x4", "mat3x2",
  "mat3x3", "mat3x4", "mat4x2", "mat4x3", "mat4x4", "ptr", "sampler", "sampler_comparison",
  "texture_1d", "texture_2d", "texture_2d_array", "texture_3d", "texture_cube",
  "texture_cube_array", "texture_multisampled_2d", "texture_storage_1d", "texture_storage_2d",
  "texture_storage_2d_array", "texture_storage_3d", "texture_depth_2d", "texture_depth_2d_array",
  "texture_depth_cube", "texture_depth_cube_array", "texture_depth_multisampled_2d", "u32", "u64",
  "vec2", "vec3", "vec4", "alias", "bitcast", "break", "case", "const", "continue", "continuing",
  "default", "discard", "else", "enable", "false", "fn", "for", "if", "let", "loop", "override",
  "return", "static_assert", "struct", "switch", "true", "type", "var", "while", "CompileShader",
  "ComputeShader", "DomainShader", "GeometryShader", "Hullshader", "NULL", "Self", "abstract",
  "active", "alignas", "alignof", "as", "asm", "asm_fragment", "async", "attribute", "auto",
  "await", "become", "binding_array", "cast", "catch", "class", "co_await", "co_return",
  "co_yield", "coherent", "column_major", "common", "compile", "compile_fragment", "concept",
  "const_cast", "consteval", "constexpr", "constinit", "crate", "debugger", "decltype", "delete",
  "demote", "demote_to_helper", "do", "dynamic_cast", "enum", "explicit", "export", "extends",
  "extern", "external", "fallthrough", "filter", "final", "finally", "friend", "from", "fxgroup",
  "get", "goto", "groupshared", "handle", "highp", "impl", "implements", "import", "inline",
  "inout", "instanceof", "interface", "layout", "lowp", "macro", "macro_rules", "match",
  "mediump", "meta", "mod", "module", "move", "mut", "mutable", "namespace", "new", "nil",
  "noexcept", "noinline", "nointerpolation", "noperspective", "null", "nullptr", "of", "operator",
  "package", "packoffset", "partition", "pass", "patch", "pixelfragment", "precise", "precision",
  "premerge", "priv", "protected", "pub", "public", "readonly", "ref", "regardless", "register",
  "reinterpret_cast", "requires", "resource", "restrict", "self", "set", "shared", "signed",
  "sizeof", "smooth", "snorm", "static", "static_cast", "std", "subroutine", "super", "target",
  "template", "this", "thread_local", "throw", "trait", "try", "typedef", "typeid", "typename",
  "typeof", "union", "unless", "unorm", "unsafe", "unsized", "use", "using", "varying", "virtual",
  "volatile", "wgsl", "where", "with", "writeonly", "yield"]

/-- A word that may be used as a name; words that start with two underscores are not. -/
def checkWord (word : String) : Except Fault Unit :=
  if word = "_" ∨ "__".toList.isPrefixOf word.toList then .error (.reservedName word) else .ok ()

/-- Any word that may be used as a name. -/
def readWord : List Token → Except Fault (String × List Token)
  | .word word :: rest => do
    checkWord word
    return (word, rest)
  | _ => .error .malformed

/-- The name of a declaration or of a member. -/
def readName (tokens : List Token) : Except Fault (String × List Token) := do
  let (word, rest) ← readWord tokens
  if reservedNames.contains word then throw (.reservedName word)
  return (word, rest)

/-- The rest behind a given symbol, if it comes first. -/
def after? (c : Char) : List Token → Option (List Token)
  | .symbol d _ :: rest => if c = d then some rest else none
  | _ => none

/-- Skips one given symbol. -/
def expect (c : Char) (tokens : List Token) : Except Fault (List Token) :=
  match after? c tokens with
  | some rest => .ok rest
  | none => .error .malformed

/-! ### Operators -/

def shortOperators : List (Char × Operator) := [
  ('*', .multiply), ('/', .divide), ('%', .remainder), ('+', .add), ('-', .subtract),
  ('<', .less), ('>', .greater), ('&', .bitAnd), ('^', .bitXor), ('|', .bitOr)]

/-- The operators of two characters with nothing between them. -/
def longOperators : List ((Char × Char) × Operator) := [
  (('<', '<'), .shiftLeft), (('>', '>'), .shiftRight), (('<', '='), .lessEqual),
  (('>', '='), .greaterEqual), (('=', '='), .equal), (('!', '='), .unequal), (('&', '&'), .and),
  (('|', '|'), .or)]

/-- Whether the tokens start with two minus signs that belong together, which nothing needs. -/
def startsDecrement : List Token → Bool
  | .symbol '-' true :: .symbol '-' _ :: _ => true
  | _ => false

def shortOperator? : List Token → Option (Operator × List Token)
  | .symbol c _ :: rest => (shortOperators.lookup c).map fun operator => (operator, rest)
  | _ => none

/-- The operator at the front and the rest, if one is there: the longer one of two. -/
def readOperator? (tokens : List Token) : Option (Operator × List Token) :=
  if startsDecrement tokens then none
  else match tokens with
    | .symbol c true :: .symbol d _ :: rest =>
      match longOperators.lookup (c, d) with
      | some operator => some (operator, rest)
      | none => shortOperator? tokens
    | _ => shortOperator? tokens

/-! ### Types -/

/-- Reads something from the front of some tokens, and gives the rest. -/
abbrev ReaderOf (α : Type) := List Token → Except Fault (α × List Token)

/-- The words for the types that take their component in angle brackets. -/
inductive Generic where
  | vector (size : Extent)
  | matrix (columns rows : Extent)

/-- The generic types by their words. -/
def generics : List (String × Generic) :=
  Extent.all.map (fun size => (s!"vec{size.count}", .vector size)) ++
    Extent.all.flatMap fun columns => Extent.all.map fun rows =>
      (s!"mat{columns.count}x{rows.count}", .matrix columns rows)

/-- The type of a generic type with its component. -/
def Generic.apply (component : Scalar) : Generic → TypeExpr
  | .vector size => .vector size component
  | .matrix columns rows => .matrix columns rows component

/-- The head of a generic type without its component. -/
def Generic.head : Generic → Head
  | .vector size => .vector size
  | .matrix columns rows => .matrix columns rows

/-- Types with a word of their own for a generic type and its component, such as `vec3f`. -/
def shorthands : List (String × TypeExpr) :=
  generics.flatMap fun (word, generic) =>
    let suffixes := match generic with
      | .vector _ => [("f", Scalar.f32), ("i", Scalar.i32), ("u", Scalar.u32)]
      | .matrix .. => [("f", Scalar.f32)]
    suffixes.map fun (suffix, scalar) => (word ++ suffix, generic.apply scalar)

/-- The type that a word is for by itself. -/
def typeOfWord? (word : String) : Option TypeExpr :=
  match Scalar.ofName? word with
  | some type => some (.scalar type)
  | none => shorthands.lookup word

/-- The component of a type: the word for a scalar in angle brackets. -/
def readComponent (tokens : List Token) : Except Fault (Scalar × List Token) := do
  let (word, rest) ← readWord (← expect '<' tokens)
  match Scalar.ofName? word with
  | some type => return (type, ← expect '>' rest)
  | none => throw (.unknownType word)

/-- The element type and the length of an array, in angle brackets. -/
def readElement (readType : ReaderOf TypeExpr) (readLength : ReaderOf Expr) :
    ReaderOf TypeExpr := fun tokens => do
  let (element, rest) ← readType (← expect '<' tokens)
  match after? ',' rest with
  | some rest =>
    let (length, rest) ← readLength rest
    return (.array element length, ← expect '>' rest)
  | none => return (.unsized element, ← expect '>' rest)

/-- A type, with the reader of array lengths given; `depth` bounds the nesting. -/
def readTypeWith (readLength : ReaderOf Expr) : Nat → ReaderOf TypeExpr
  | 0, _ => .error .malformed
  | depth + 1, tokens => do
    let (word, rest) ← readWord tokens
    match typeOfWord? word, generics.lookup word with
    | some type, _ => return (type, rest)
    | none, some generic =>
      let (component, rest) ← readComponent rest
      return (generic.apply component, rest)
    | none, none =>
      if word = "atomic" then
        let (type, rest) ← readComponent rest
        return (.atomic type, rest)
      if word = "array" then return ← readElement (readTypeWith readLength depth) readLength rest
      return (.named word, rest)

/-! ### Expressions -/

/-- Further operands of a level behind `left`, grouped from the left. -/
def readChain (level : Nat) (readOperand : ReaderOf Expr) (left : Expr) (tokens : List Token) :
    Except Fault (Expr × List Token) :=
  match readOperator? tokens with
  | none => .ok (left, tokens)
  | some (operator, rest) =>
    if operator.level = level then
      match readOperand rest with
      | .error fault => .error fault
      | .ok (right, after) =>
        if after.length < tokens.length then
          readChain level readOperand (.binary operator left right) after
        else .error .malformed
    else .ok (left, tokens)
termination_by tokens.length

/-- An expression with operators of the levels below a given one. -/
def readLevels (readOperand : ReaderOf Expr) : Nat → ReaderOf Expr
  | 0, tokens => readOperand tokens
  | level + 1, tokens => do
    let (left, rest) ← readLevels readOperand level tokens
    readChain level (readLevels readOperand level) left rest

/-- An expression with all operators. -/
def readWith (readOperand : ReaderOf Expr) : ReaderOf Expr :=
  readLevels readOperand Operator.levels

/-- Arguments with commas between them, up to the closing parenthesis. -/
def readArguments (readOperand : ReaderOf Expr) (tokens : List Token) :
    Except Fault (Arguments × List Token) :=
  match after? ')' tokens with
  | some rest => .ok (.none, rest)
  | none =>
    match readWith readOperand tokens with
    | .error fault => .error fault
    | .ok (first, rest) =>
      match after? ',' rest with
      | none => do return (.more first .none, ← expect ')' rest)
      | some rest =>
        if rest.length < tokens.length then do
          let (arguments, rest) ← readArguments readOperand rest
          return (.more first arguments, rest)
        else .error .malformed
termination_by tokens.length

/-- The head that a word starts, if it is the word for a type. A component in angle brackets
belongs to it; an atomic type is no head. -/
def readHead? (readOperand : ReaderOf Expr) (word : String) (tokens : List Token) :
    Except Fault (Option Head × List Token) := do
  let isOpen := (after? '<' tokens).isSome
  match typeOfWord? word, generics.lookup word with
  | some type, _ => return (some (.type type), tokens)
  | none, some generic =>
    if !isOpen then return (some generic.head, tokens)
    let (component, rest) ← readComponent tokens
    return (some (.type (generic.apply component)), rest)
  | none, none =>
    if word = "atomic" then throw (.unknownValue word)
    if word ≠ "array" then return (none, tokens)
    if !isOpen then return (some .array, tokens)
    let (type, rest) ←
      readElement (readTypeWith readOperand (tokens.length + 1)) readOperand tokens
    return (some (.type type), rest)

/-- A name, or a head with its arguments. -/
def readNamed (readOperand : ReaderOf Expr) (word : String) (tokens : List Token) :
    Except Fault (Expr × List Token) := do
  let (head?, rest) ← readHead? readOperand word tokens
  match head?, after? '(' rest with
  | some head, _ =>
    let (arguments, rest) ← readArguments readOperand (← expect '(' rest)
    return (.call head arguments, rest)
  | none, some rest =>
    let (arguments, rest) ← readArguments readOperand rest
    return (.call (.named word) arguments, rest)
  | none, none =>
    checkWord word
    return (.name word, rest)

/-- A literal, a name, a call or an expression in parentheses. -/
def readPrimary (readOperand : ReaderOf Expr) : ReaderOf Expr
  | .number value :: rest => .ok (.literal value, rest)
  | .word "true" :: rest => .ok (.literal (.boolean true), rest)
  | .word "false" :: rest => .ok (.literal (.boolean false), rest)
  | .word word :: rest => readNamed readOperand word rest
  | .symbol '(' _ :: rest => do
    let (inner, rest) ← readWith readOperand rest
    return (inner, ← expect ')' rest)
  | _ => .error .malformed

/-- The parts that are taken of a value, one behind the other. -/
def readParts (readOperand : ReaderOf Expr) (base : Expr) (tokens : List Token) :
    Except Fault (Expr × List Token) :=
  let part? : Except Fault (Option (Expr × List Token)) :=
    match tokens with
    | .symbol '.' _ :: rest => do
      let (name, rest) ← readName rest
      return some (.member base name, rest)
    | .symbol '[' _ :: rest => do
      let (index, rest) ← readWith readOperand rest
      return some (.element base index, ← expect ']' rest)
    | _ => .ok none
  match part? with
  | .error fault => .error fault
  | .ok none => .ok (base, tokens)
  | .ok (some (part, rest)) =>
    if rest.length < tokens.length then readParts readOperand part rest else .error .malformed
termination_by tokens.length

/-- The operators that stand in front of their operand. -/
def unaryOperators : List (Char × UnaryOperator) :=
  [('-', .negate), ('!', .not), ('~', .complement)]

/-- The unary operator at the front and the rest, if one is there. -/
def readUnaryOperator? : List Token → Option (UnaryOperator × List Token)
  | .symbol c _ :: rest => (unaryOperators.lookup c).map fun operator => (operator, rest)
  | _ => none

/-- An operand of an operator; `depth` bounds the nesting. -/
def readOperand : Nat → ReaderOf Expr
  | 0, _ => .error .malformed
  | depth + 1, tokens =>
    if startsDecrement tokens then .error .malformed
    else match readUnaryOperator? tokens with
      | some (operator, rest) => do
        let (operand, rest) ← readOperand depth rest
        return (.unary operator operand, rest)
      | none => do
        let (base, rest) ← readPrimary (readOperand depth) tokens
        readParts (readOperand depth) base rest

def readExpr : ReaderOf Expr := fun tokens =>
  readWith (readOperand (tokens.length + 1)) tokens

def readType : ReaderOf TypeExpr := fun tokens =>
  readTypeWith (readOperand (tokens.length + 1)) (tokens.length + 1) tokens

/-! ### Declarations -/

/-- The attributes of a member, as far as they have been read. -/
structure Attributes where
  size : Option Expr
  align : Option Expr
  location : Option Expr
  builtin : Option String

/-- The values that the language itself passes between stages. -/
def builtinValues : List String := [
  "position", "vertex_index", "instance_index", "view_index", "front_facing", "frag_depth",
  "primitive_index", "sample_index", "sample_mask", "global_invocation_id", "local_invocation_id",
  "local_invocation_index", "workgroup_id", "num_workgroups", "num_subgroups", "subgroup_id",
  "subgroup_size", "subgroup_invocation_id"]

/-- Sets an attribute, which may be set only once. -/
def setOnce (name : String) (old : Option α) (value : α) : Except Fault (Option α) :=
  match old with
  | some _ => .error (.badAttribute name)
  | none => .ok (some value)

/-- One attribute, from behind its `@`. -/
def readAttribute (attrs : Attributes) (tokens : List Token) :
    Except Fault (Attributes × List Token) := do
  let (name, rest) ← readWord tokens
  let rest ← expect '(' rest
  match name with
  | "size" =>
    let (value, rest) ← readExpr rest
    return ({ attrs with size := ← setOnce name attrs.size value }, ← expect ')' rest)
  | "align" =>
    let (value, rest) ← readExpr rest
    return ({ attrs with align := ← setOnce name attrs.align value }, ← expect ')' rest)
  | "location" =>
    let (value, rest) ← readExpr rest
    return ({ attrs with location := ← setOnce name attrs.location value }, ← expect ')' rest)
  | "builtin" =>
    let (value, rest) ← readWord rest
    if !builtinValues.contains value then throw (.badAttribute value)
    return ({ attrs with builtin := ← setOnce name attrs.builtin value }, ← expect ')' rest)
  | _ => throw (.badAttribute name)

/-- All attributes of a member. -/
def readAttributes (attrs : Attributes) (tokens : List Token) :
    Except Fault (Attributes × List Token) :=
  match after? '@' tokens with
  | none => .ok (attrs, tokens)
  | some rest =>
    match readAttribute attrs rest with
    | .error fault => .error fault
    | .ok (attrs, after) =>
      if after.length < tokens.length then readAttributes attrs after else .error .malformed
termination_by tokens.length

/-- How a member is passed; it cannot be passed in two ways. -/
def Attributes.passing (attrs : Attributes) : Except Fault (Option Passing) :=
  match attrs.location, attrs.builtin with
  | none, none => .ok none
  | some index, none => .ok (some (.location index))
  | none, some name => .ok (some (.builtin name))
  | some _, some name => .error (.badAttribute name)

def readMember (tokens : List Token) : Except Fault (Member × List Token) := do
  let (attrs, rest) ← readAttributes ⟨none, none, none, none⟩ tokens
  let passing ← attrs.passing
  let (name, rest) ← readName rest
  let rest ← expect ':' rest
  let (type, rest) ← readType rest
  return (⟨name, type, attrs.size, attrs.align, passing⟩, rest)

/-- Members with commas between them, up to the closing brace. -/
def readMembers (tokens : List Token) : Except Fault (List Member × List Token) :=
  match after? '\x7d' tokens with
  | some rest => .ok ([], rest)
  | none =>
    match readMember tokens with
    | .error fault => .error fault
    | .ok (member, rest) =>
      match after? ',' rest with
      | none => do return ([member], ← expect '\x7d' rest)
      | some rest =>
        if rest.length < tokens.length then do
          let (members, rest) ← readMembers rest
          return (member :: members, rest)
        else .error .malformed
termination_by tokens.length

/-- The type behind a colon, where there is one. -/
def readTypeOf (tokens : List Token) : Except Fault (Option TypeExpr × List Token) :=
  match after? ':' tokens with
  | some rest => do
    let (type, rest) ← readType rest
    return (some type, rest)
  | none => .ok (none, tokens)

/-- A declaration, from its first word on. -/
def readDeclaration (first : Token) (rest : List Token) :
    Except Fault (Declaration × List Token) := do
  match first with
  | .word "struct" =>
    let (name, rest) ← readName rest
    let (members, rest) ← readMembers (← expect '\x7b' rest)
    return (.struct name members, rest)
  | .word "alias" =>
    let (name, rest) ← readName rest
    let rest ← expect '=' rest
    let (type, rest) ← readType rest
    return (.alias name type, ← expect ';' rest)
  | .word "const" =>
    let (name, rest) ← readName rest
    let (type, rest) ← readTypeOf rest
    let (value, rest) ← readExpr (← expect '=' rest)
    return (.constant name type value, ← expect ';' rest)
  | _ => throw .malformed

/-- The declarations of a module; single semicolons may stand between them. -/
def readDeclarations (tokens : List Token) : Except Fault (List Declaration) :=
  match tokens with
  | [] => .ok []
  | token :: rest =>
    match token with
    | .symbol ';' _ => readDeclarations rest
    | _ =>
      match readDeclaration token rest with
      | .error fault => .error fault
      | .ok (declaration, after) =>
        if after.length ≤ rest.length then do
          return declaration :: (← readDeclarations after)
        else .error .malformed
termination_by tokens.length

/-- The declarations that a text writes down, if it declares nothing but data. -/
def read (text : String) : Except Fault (List Declaration) :=
  readDeclarations (scan text.toList)

end ShaderLayout.Shader
