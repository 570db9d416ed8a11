import ShaderLayout.Proofs.Shader.Scanning
import ShaderLayout.Shader.Printer

/-!
The tokens of the lines of a module. Items give the tokens that their parts
stand for; remarks and empty lines give none.
-/

namespace ShaderLayout.Shader

open Text

/-- The tokens of some lines. -/
def scanLines (lines : List String) : List Token :=
  scan (unlines lines).toList

@[simp] theorem scanLines_nil : scanLines [] = [] := rfl

theorem scanLines_cons (line : String) (lines : List String) :
    scanLines (line :: lines) = scan (line.toList ++ '\n' :: (unlines lines).toList) := by
  rw [scanLines, toList_unlines_cons]

theorem scanLines_empty (lines : List String) : scanLines ("" :: lines) = scanLines lines := by
  rw [scanLines_cons]
  exact scan_blank (by decide) _

theorem scanLines_remark {line : String} {remark : List Char}
    (hline : line.toList = '/' :: '/' :: remark) (h : ∀ c ∈ remark, isLineEnd c = false)
    (lines : List String) : scanLines (line :: lines) = scanLines lines := by
  rw [scanLines_cons, hline]
  exact scan_comment h _

/-- Indentation does not change tokens. -/
theorem scanLines_indent (line : String) (lines : List String) :
    scanLines (indent line :: lines) = scanLines (line :: lines) := by
  rw [scanLines_cons, scanLines_cons, indent]
  split
  · rfl
  · have hblank : isBlank ' ' := by decide
    simp [scan_blank hblank]

/-! ### Types -/

/-- The words of a type: one for itself, and one for its component if that stands apart. -/
def typeWords : FieldType → String × Option String
  | .float => ("f32", none)
  | .int => ("i32", none)
  | .uint => ("u32", none)
  | .float2 => ("vec2", some "f32")
  | .float3 => ("vec3", some "f32")
  | .float4 => ("vec4", some "f32")
  | .int2 => ("vec2", some "i32")
  | .int4 => ("vec4", some "i32")
  | .uint2 => ("vec2", some "u32")
  | .uint4 => ("vec4", some "u32")
  | .float3x3 => ("mat3x3", some "f32")
  | .float4x4 => ("mat4x4", some "f32")

def typeTokens (type : FieldType) : List Token :=
  match typeWords type with
  | (word, none) => [.word word]
  | (word, some component) =>
    [.word word, .symbol '<' false, .word component, .symbol '>' false]

theorem typeText_eq (type : FieldType) :
    typeText type = match typeWords type with
      | (word, none) => word
      | (word, some component) => s!"{word}<{component}>" := by
  cases type <;> decide +kernel

theorem isIdentifier_of_typeWords {type : FieldType} {word : String} {component : Option String}
    (h : typeWords type = (word, component)) : Name.isIdentifier word.toList ∧
      ∀ word ∈ component, Name.isIdentifier word.toList := by
  cases type <;> cases h <;> decide +kernel

theorem scan_type (type : FieldType) {c : Char} (hc : c = ',' ∨ c = ';') (rest : List Char) :
    scan ((typeText type).toList ++ c :: rest) = typeTokens type ++ scan (c :: rest) := by
  have hother : inWord c = false ∧ endsOperator c = false := by
    rcases hc with rfl | rfl <;> decide
  obtain ⟨hend, hoperator⟩ := hother
  have hhead : (c :: rest).head?.any endsOperator = false := hoperator
  rw [typeText_eq, typeTokens]
  cases hwords : typeWords type with
  | mk word component =>
      obtain ⟨hword, hcomponent⟩ := isIdentifier_of_typeWords hwords
      cases component with
      | none => exact scan_word hword hend rest
      | some component =>
          have hcomponent := hcomponent component rfl
          have htext : s!"{word}<{component}>".toList ++ c :: rest =
              word.toList ++ '<' :: (component.toList ++ '>' :: c :: rest) := by
            simp [toString]
          show scan (s!"{word}<{component}>".toList ++ c :: rest) = _
          rw [htext, scan_word hword (by decide), scan_mark (by decide) (head?_word hcomponent _),
            scan_word hcomponent (by decide), scan_mark (by decide) hhead]
          rfl

/-! ### Items -/

namespace ItemMember

/-- What stands in front of a member. -/
def locationText : Option Nat → String
  | some index => s!"@location({index}) "
  | none => ""

/-- What stands behind a member. -/
def offsetText : Option Nat → String
  | some offset => s!" // offset {offset}"
  | none => ""

theorem line_eq (member : ItemMember) :
    member.line = locationText member.location ++ member.name ++ ": " ++ typeText member.type ++
      "," ++ offsetText member.offset := by
  obtain ⟨location, name, type, offset⟩ := member
  cases location <;> cases offset <;> rfl

def locationTokens : Option Nat → List Token
  | some index => [.symbol '@' false, .word "location", .symbol '(' false,
    integerToken none index, .symbol ')' false]
  | none => []

def tokens (member : ItemMember) : List Token :=
  locationTokens member.location ++ .word member.name :: .symbol ':' false ::
    (typeTokens member.type ++ [.symbol ',' false])

theorem scan_location (location : Option Nat) (rest : List Char) :
    scan ((locationText location).toList ++ rest) = locationTokens location ++ scan rest := by
  cases location with
  | none => rfl
  | some index =>
      have htext : (locationText (some index)).toList ++ rest =
          '@' :: ("location".toList ++ '(' :: (Nat.toDigits 10 index ++ ')' :: ' ' :: rest)) := by
        simp [locationText, toString]
      have hword : Name.isIdentifier "location".toList := by decide +kernel
      rw [htext, scan_mark (by decide) (head?_word hword _), scan_word hword (by decide),
        scan_mark (by decide) (head?_toDigits index _), scan_index,
        scan_mark (by decide) (by rfl), scan_blank (by decide)]
      rfl

/-- The comma of a member is its last token; the remark behind it is not read. -/
theorem scan_offset (offset : Option Nat) (rest : List Char) :
    scan (',' :: ((offsetText offset).toList ++ '\n' :: rest)) =
      .symbol ',' false :: scan rest := by
  cases offset with
  | none =>
      show scan (',' :: '\n' :: rest) = _
      rw [scan_mark (by decide) (by rfl), scan_blank (by decide)]
  | some offset =>
      have hremark : ∀ c ∈ " offset ".toList ++ Nat.toDigits 10 offset, isLineEnd c = false := by
        refine List.forall_mem_append.mpr
          ⟨isLineEnd_of_any_eq_false (by decide +kernel), fun c hc => ?_⟩
        have hblank := (isDigit_spec (isDigit_of_mem_toDigits hc)).1
        simp only [isBlank, Bool.or_eq_false_iff] at hblank
        exact hblank.1.1.2
      have htext : (offsetText (some offset)).toList ++ '\n' :: rest =
          ' ' :: '/' :: '/' :: (" offset ".toList ++ Nat.toDigits 10 offset ++ '\n' :: rest) := by
        simp [offsetText, toString]
      rw [htext, scan_mark (by decide) (by rfl), scan_blank (by decide), scan_comment hremark]

theorem scanLines_line {member : ItemMember} (h : Name.isIdentifier member.name.toList)
    (lines : List String) :
    scanLines (member.line :: lines) = member.tokens ++ scanLines lines := by
  have htext : member.line.toList ++ '\n' :: (unlines lines).toList =
      (locationText member.location).toList ++ (member.name.toList ++ ':' :: ' ' ::
        ((typeText member.type).toList ++ ',' ::
          ((offsetText member.offset).toList ++ '\n' :: (unlines lines).toList))) := by
    simp [line_eq]
  rw [scanLines_cons, htext, scan_location, scan_word h (by decide),
    scan_mark (by decide) (by rfl), scan_blank (by decide), scan_type _ (Or.inl rfl), scan_offset]
  simp [tokens, scanLines]

theorem scanLines_lines {members : List ItemMember}
    (h : ∀ member ∈ members, Name.isIdentifier member.name.toList) (lines : List String) :
    scanLines ((members.map line).map indent ++ lines) =
      members.flatMap tokens ++ scanLines lines := by
  induction members with
  | nil => rfl
  | cons member members ih =>
      obtain ⟨hmember, hmembers⟩ := List.forall_mem_cons.mp h
      rw [List.map_cons, List.map_cons, List.cons_append, scanLines_indent, scanLines_line hmember,
        ih hmembers, List.flatMap_cons, List.append_assoc]

end ItemMember

namespace Item

def tokens : Item → List Token
  | .constant name value => [.word "const", .word name, .symbol ':' false, .word "u32",
    .symbol '=' false, integerToken (some .u32) value.toNat, .symbol ';' false]
  | .alias name type =>
    [.word "alias", .word name, .symbol '=' false] ++ typeTokens type ++ [.symbol ';' false]
  | .struct _ name members => [.word "struct", .word name, .symbol '\x7b' false] ++
    members.flatMap ItemMember.tokens ++ [.symbol '\x7d' false]

theorem scanLines_constant {name : String} (hname : Name.isIdentifier name.toList) (value : UInt32)
    (lines : List String) :
    scanLines ((Item.constant name value).lines ++ lines) =
      (Item.constant name value).tokens ++ scanLines lines := by
  have htext : s!"const {name}: u32 = {value}u;".toList ++ '\n' :: (unlines lines).toList =
      "const".toList ++ ' ' :: (name.toList ++ ':' :: ' ' :: ("u32".toList ++ ' ' :: '=' :: ' ' ::
        (Nat.toDigits 10 value.toNat ++ 'u' :: ';' :: '\n' :: (unlines lines).toList))) := by
    simp [toString]
  rw [Item.lines, List.singleton_append, scanLines_cons, htext,
    scan_word (by decide +kernel) (by decide), scan_blank (by decide), scan_word hname (by decide),
    scan_mark (by decide) (by rfl), scan_blank (by decide),
    scan_word (by decide +kernel) (by decide), scan_blank (by decide),
    scan_mark (by decide) (by rfl), scan_blank (by decide), scan_unsigned,
    scan_mark (by decide) (by rfl), scan_blank (by decide)]
  rfl

theorem scanLines_alias {name : String} (hname : Name.isIdentifier name.toList) (type : FieldType)
    (lines : List String) :
    scanLines ((Item.alias name type).lines ++ lines) =
      (Item.alias name type).tokens ++ scanLines lines := by
  have htext : s!"alias {name} = {typeText type};".toList ++
      '\n' :: (unlines ("" :: lines)).toList =
      "alias".toList ++ ' ' :: (name.toList ++ ' ' :: '=' :: ' ' ::
        ((typeText type).toList ++ ';' :: '\n' :: (unlines ("" :: lines)).toList)) := by
    simp [toString]
  rw [Item.lines, List.cons_append, List.singleton_append, scanLines_cons, htext,
    scan_word (by decide +kernel) (by decide), scan_blank (by decide), scan_word hname (by decide),
    scan_blank (by decide), scan_mark (by decide) (by rfl), scan_blank (by decide),
    scan_type type (Or.inr rfl), scan_mark (by decide) (by rfl), scan_blank (by decide),
    ← scanLines, scanLines_empty]
  simp [tokens]

theorem scanLines_struct {remark name : String} {members : List ItemMember}
    (hremark : ∀ c ∈ remark.toList, isLineEnd c = false) (hname : Name.isIdentifier name.toList)
    (hmembers : ∀ member ∈ members, Name.isIdentifier member.name.toList) (lines : List String) :
    scanLines ((Item.struct remark name members).lines ++ lines) =
      (Item.struct remark name members).tokens ++ scanLines lines := by
  have hopen (lines : List String) : scanLines ((s!"struct {name}" ++ " \x7b") :: lines) =
      [.word "struct", .word name, .symbol '\x7b' false] ++ scanLines lines := by
    have htext : (s!"struct {name}" ++ " \x7b").toList ++ '\n' :: (unlines lines).toList =
        "struct".toList ++ ' ' :: (name.toList ++ ' ' :: '\x7b' :: '\n' ::
          (unlines lines).toList) := by
      simp [toString]
    rw [scanLines_cons, htext, scan_word (by decide +kernel) (by decide), scan_blank (by decide),
      scan_word hname (by decide), scan_blank (by decide), scan_mark (by decide) (by rfl),
      scan_blank (by decide)]
    rfl
  have hclose : scanLines ("\x7d" :: "" :: lines) = .symbol '\x7d' false :: scanLines lines := by
    have htext : "\x7d".toList ++ '\n' :: (unlines ("" :: lines)).toList =
        '\x7d' :: '\n' :: (unlines ("" :: lines)).toList := rfl
    rw [scanLines_cons, htext, scan_mark (by decide) (by rfl), scan_blank (by decide), ← scanLines,
      scanLines_empty]
  have hremark : ∀ c ∈ ' ' :: remark.toList, isLineEnd c = false :=
    List.forall_mem_cons.mpr ⟨by decide, hremark⟩
  have hline : s!"// {remark}".toList = '/' :: '/' :: ' ' :: remark.toList := by
    simp [toString]
  have hlines : (Item.struct remark name members).lines ++ lines =
      s!"// {remark}" :: (s!"struct {name}" ++ " \x7b") ::
        ((members.map ItemMember.line).map indent ++ "\x7d" :: "" :: lines) := by
    simp [Item.lines, braced]
  rw [hlines, scanLines_remark hline hremark, hopen, ItemMember.scanLines_lines hmembers, hclose]
  simp [tokens]

/-- An item whose names are identifiers and whose remark stays on its line. -/
def Spelled : Item → Prop
  | .constant name _ => Name.isIdentifier name.toList
  | .alias name _ => Name.isIdentifier name.toList
  | .struct remark name members =>
    (∀ c ∈ remark.toList, isLineEnd c = false) ∧ Name.isIdentifier name.toList ∧
      ∀ member ∈ members, Name.isIdentifier member.name.toList

theorem scanLines_item {item : Item} (h : item.Spelled) (lines : List String) :
    scanLines (item.lines ++ lines) = item.tokens ++ scanLines lines := by
  cases item with
  | constant name value => exact scanLines_constant h value lines
  | «alias» name type => exact scanLines_alias h type lines
  | struct remark name members =>
      obtain ⟨hremark, hname, hmembers⟩ := h
      exact scanLines_struct hremark hname hmembers lines

/-- A name that starts with a digit leaves an alias without one. -/
theorem scanLines_numbered {name : String} {c : Char} {cs : List Char}
    (hname : name.toList = c :: cs) (hc : c.isDigit) (type : FieldType) (lines : List String) :
    ∃ token tokens, scanLines ((Item.alias name type).lines ++ lines) =
      .word "alias" :: token :: tokens ∧ ∀ word, token ≠ .word word := by
  have htext (text : List Char) : s!"alias {name} = {typeText type};".toList ++ text =
      "alias".toList ++ ' ' :: c ::
        (cs ++ " = ".toList ++ (typeText type).toList ++ ';' :: text) := by
    simp [toString, hname]
  rw [Item.lines, List.cons_append, scanLines_cons, htext,
    scan_word (by decide +kernel) (by decide), scan_blank (by decide), scan_digit hc]
  exact ⟨_, _, rfl, scanNumber_ne_word _⟩

end Item

end ShaderLayout.Shader
