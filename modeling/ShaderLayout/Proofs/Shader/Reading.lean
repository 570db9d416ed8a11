import Mathlib.Algebra.Ring.Nat
import ShaderLayout.Proofs.Checks
import ShaderLayout.Proofs.Shader.Spelling
import ShaderLayout.Shader.Reader

/-!
Reading of the lines of a module. An item is read back as the declaration it
stands for exactly when all its names can be used, and a module when all its
items are.
-/

namespace ShaderLayout.Shader

open Text

/-! ### Names and symbols -/

/-- A word that a declaration or a member can have as a name. -/
structure Usable (word : String) : Prop where
  identifier : Name.isIdentifier word.toList
  notUnderscore : word ≠ "_"
  notReserved : "__".toList.isPrefixOf word.toList = false
  notKept : word ∉ reservedNames

theorem checkWord_eq_ok_iff {word : String} :
    checkWord word = .ok () ↔ word ≠ "_" ∧ "__".toList.isPrefixOf word.toList = false := by
  rw [checkWord]
  split
  · next h => exact iff_of_false nofun fun ⟨hne, hfree⟩ => h.elim hne (by rw [hfree]; exact nofun)
  · next h =>
      refine iff_of_true rfl ⟨fun heq => h (Or.inl heq), ?_⟩
      exact eq_false_of_ne_true fun hkept => h (Or.inr hkept)

theorem readName_eq_ok_iff {word name : String} (h : Name.isIdentifier word.toList)
    {rest after : List Token} :
    readName (.word word :: rest) = .ok (name, after) ↔
      Usable word ∧ name = word ∧ after = rest := by
  simp only [readName, readWord, bind_eq_ok_iff, guard_eq_ok_iff, List.contains_iff_mem]
  constructor
  · rintro ⟨_, ⟨_, hword, ⟨⟩⟩, hkept, ⟨⟩⟩
    obtain ⟨hne, hfree⟩ := checkWord_eq_ok_iff.mp hword
    exact ⟨⟨h, hne, hfree, hkept⟩, rfl, rfl⟩
  · rintro ⟨⟨-, hne, hfree, hkept⟩, rfl, rfl⟩
    exact ⟨_, ⟨(), checkWord_eq_ok_iff.mpr ⟨hne, hfree⟩, rfl⟩, hkept, rfl⟩

@[simp] theorem expect_symbol (c : Char) (joined : Bool) (rest : List Token) :
    expect c (.symbol c joined :: rest) = .ok rest := by
  rw [expect, after?, if_pos rfl]

/-! ### Numbers and types -/

theorem readType_typeTokens (type : FieldType) (rest : List Token) :
    readType (typeTokens type ++ rest) = .ok (fieldTypeExpr type, rest) := by
  cases type <;> rfl

theorem readLevels_of_alone {readOperand : ReaderOf Expr} {tokens rest : List Token} {expr : Expr}
    (hoperand : readOperand tokens = .ok (expr, rest)) (hrest : readOperator? rest = none)
    (level : Nat) : readLevels readOperand level tokens = .ok (expr, rest) := by
  induction level with
  | zero => exact hoperand
  | succ level ih =>
      rw [readLevels, ih]
      show readChain level _ expr rest = _
      rw [readChain, hrest]

/-- A number stands alone before the end of its declaration or attribute. -/
theorem readExpr_number (value : Literal) {c : Char} (hc : c = ';' ∨ c = ')') (rest : List Token) :
    readExpr (.number value :: .symbol c false :: rest) =
      .ok (.literal value, .symbol c false :: rest) := by
  have hparts (readOperand : ReaderOf Expr) (base : Expr) :
      readParts readOperand base (.symbol c false :: rest) =
        .ok (base, .symbol c false :: rest) := by
    rw [readParts.eq_def]
    rcases hc with rfl | rfl <;> rfl
  have hoperator : readOperator? (.symbol c false :: rest) = none := by
    rcases hc with rfl | rfl <;> rfl
  have hoperand (depth : Nat) : readOperand (depth + 1) (.number value :: .symbol c false :: rest) =
      .ok (.literal value, .symbol c false :: rest) := hparts _ _
  exact readLevels_of_alone (hoperand _) hoperator _

theorem readExpr_badNumber (rest : List Token) :
    readExpr (.badNumber :: rest) = .error .malformed := by
  have hlevels {readOperand : ReaderOf Expr} {tokens : List Token} {fault : Fault}
      (h : readOperand tokens = .error fault) (level : Nat) :
      readLevels readOperand level tokens = .error fault := by
    induction level with
    | zero => exact h
    | succ level ih =>
        rw [readLevels, ih]
        rfl
  exact hlevels rfl _

/-! ### Members -/

namespace ItemMember

/-- What has to hold of a member for it to be read. -/
structure Readable (member : ItemMember) : Prop where
  name : Usable member.name
  location : ∀ index ∈ member.location, index < 2 ^ 63

theorem readAttribute_location (attrs : Attributes) (rest : List Token) :
    readAttribute attrs (.word "location" :: .symbol '(' false :: rest) = do
      let (value, rest) ← readExpr rest
      return ({ attrs with location := ← setOnce "location" attrs.location value },
        ← expect ')' rest) := by
  have hword : readWord (.word "location" :: .symbol '(' false :: rest) =
      .ok ("location", .symbol '(' false :: rest) := rfl
  rw [readAttribute, hword]
  rfl

theorem readAttributes_word (attrs : Attributes) (word : String) (rest : List Token) :
    readAttributes attrs (.word word :: rest) = .ok (attrs, .word word :: rest) := by
  rw [readAttributes]
  rfl

theorem readAttributes_next {attrs next : Attributes} {joined : Bool} {rest after : List Token}
    (h : readAttribute attrs rest = .ok (next, after)) (hlength : after.length ≤ rest.length) :
    readAttributes attrs (.symbol '@' joined :: rest) = readAttributes next after := by
  rw [readAttributes]
  simp only [after?, ↓reduceIte, h]
  exact if_pos (Nat.lt_succ_of_le hlength)

theorem readAttributes_fault {attrs : Attributes} {fault : Fault} {joined : Bool}
    {rest : List Token} (h : readAttribute attrs rest = .error fault) :
    readAttributes attrs (.symbol '@' joined :: rest) = .error fault := by
  rw [readAttributes]
  simp only [after?, ↓reduceIte, h]

theorem readAttributes_location (location : Option Nat) {word : String} {rest after : List Token}
    {attrs : Attributes} :
    readAttributes ⟨none, none, none, none⟩ (locationTokens location ++ .word word :: rest) =
        .ok (attrs, after) ↔
      (∀ index ∈ location, index < 2 ^ 63) ∧
      attrs = ⟨none, none, location.map fun index => .literal (.integer none index), none⟩ ∧
      after = .word word :: rest := by
  have hread {location : Option Nat} (hlocation : ∀ index ∈ location, index < 2 ^ 63) :
      readAttributes ⟨none, none, none, none⟩ (locationTokens location ++ .word word :: rest) =
        .ok (⟨none, none, location.map fun index => .literal (.integer none index), none⟩,
          .word word :: rest) := by
    cases location with
    | none => exact readAttributes_word _ word rest
    | some index =>
        have htoken : integerToken none index = .number (.integer none index) :=
          if_pos (hlocation index rfl)
        rw [locationTokens, htoken, List.cons_append, ← readAttributes_word _ word rest]
        refine readAttributes_next ?_ (by simp)
        show readAttribute _ (.word "location" :: .symbol '(' false :: _) = _
        rw [readAttribute_location]
        show (readExpr (.number _ :: .symbol ')' false :: _) >>= _) = _
        rw [readExpr_number _ (Or.inr rfl)]
        rfl
  by_cases hlocation : ∀ index ∈ location, index < 2 ^ 63
  · rw [hread hlocation, Except.ok.injEq, Prod.mk.injEq]
    exact ⟨fun ⟨hattrs, hafter⟩ => ⟨hlocation, hattrs.symm, hafter.symm⟩,
      fun ⟨_, hattrs, hafter⟩ => ⟨hattrs.symm, hafter.symm⟩⟩
  · cases location with
    | none => exact absurd nofun hlocation
    | some index =>
        -- A number too large for a literal is a token that no expression starts with.
        have hindex : ¬index < 2 ^ 63 := by simpa using hlocation
        have htoken : integerToken none index = .badNumber := if_neg hindex
        refine iff_of_false ?_ fun h => hlocation h.1
        rw [locationTokens, htoken, List.cons_append, readAttributes_fault]
        · exact nofun
        · show readAttribute _ (.word "location" :: .symbol '(' false :: _) = _
          rw [readAttribute_location]
          show (readExpr (.badNumber :: _) >>= _) = _
          rw [readExpr_badNumber]
          rfl

theorem readMember_eq_ok_iff {member : ItemMember} (h : Name.isIdentifier member.name.toList)
    {rest after : List Token} {found : Member} :
    readMember (locationTokens member.location ++ .word member.name :: .symbol ':' false ::
        (typeTokens member.type ++ rest)) = .ok (found, after) ↔
      member.Readable ∧ found = member.declaration ∧ after = rest := by
  have hpassing : Attributes.passing
      ⟨none, none, member.location.map fun index => .literal (.integer none index), none⟩ =
        .ok member.declaration.passing := by
    rw [declaration]
    cases member.location <;> rfl
  simp only [readMember, bind_eq_ok_iff, Prod.exists, readAttributes_location]
  constructor
  · rintro ⟨_, _, ⟨hlocation, rfl, rfl⟩, _, hpassed, _, _, hname, _, hcolon, _, _, htype, hfound⟩
    obtain ⟨husable, rfl, rfl⟩ := (readName_eq_ok_iff h).mp hname
    cases hpassing.symm.trans hpassed
    cases (expect_symbol ..).symm.trans hcolon
    cases (readType_typeTokens ..).symm.trans htype
    cases hfound
    exact ⟨⟨husable, hlocation⟩, rfl, rfl⟩
  · rintro ⟨⟨husable, hlocation⟩, rfl, rfl⟩
    exact ⟨_, _, ⟨hlocation, rfl, rfl⟩, _, hpassing, _, _,
      (readName_eq_ok_iff h).mpr ⟨husable, rfl, rfl⟩, _, expect_symbol .., _, _,
      readType_typeTokens .., rfl⟩

/-- Members are read up to the brace behind them. -/
theorem readMembers_eq_ok_iff {members : List ItemMember}
    (h : ∀ member ∈ members, Name.isIdentifier member.name.toList) {rest after : List Token}
    {found : List Member} :
    readMembers (members.flatMap tokens ++ .symbol '\x7d' false :: rest) = .ok (found, after) ↔
      (∀ member ∈ members, member.Readable) ∧ found = members.map declaration ∧ after = rest := by
  induction members generalizing found after with
  | nil =>
      rw [List.flatMap_nil, List.nil_append, readMembers]
      show Except.ok _ = _ ↔ _
      rw [Except.ok.injEq, Prod.mk.injEq]
      exact ⟨fun ⟨hfound, hafter⟩ => ⟨nofun, hfound.symm, hafter.symm⟩,
        fun ⟨_, hfound, hafter⟩ => ⟨hfound.symm, hafter.symm⟩⟩
  | cons member members ih =>
      obtain ⟨hmember, hmembers⟩ := List.forall_mem_cons.mp h
      have htokens : (member :: members).flatMap tokens ++ .symbol '\x7d' false :: rest =
          locationTokens member.location ++ .word member.name :: .symbol ':' false ::
            (typeTokens member.type ++ .symbol ',' false ::
              (members.flatMap tokens ++ .symbol '\x7d' false :: rest)) := by
        simp [tokens]
      have hopen (tokens : List Token) :
          after? '\x7d' (locationTokens member.location ++ .word member.name :: tokens) = none := by
        cases member.location <;> rfl
      have hread (first : Member) (behind : List Token) :=
        @readMember_eq_ok_iff member hmember (.symbol ',' false ::
          (members.flatMap tokens ++ .symbol '\x7d' false :: rest)) behind first
      rw [htokens, readMembers, hopen, List.forall_mem_cons]
      -- What `readMember` gives is known only through `hread`, so it is split as it comes.
      generalize readMember _ = result at hread ⊢
      cases result with
      | error fault =>
          refine iff_of_false ?_ ?_
          · rintro ⟨⟩
          · rintro ⟨⟨hreadable, -⟩, -⟩
            cases (hread _ _).mpr ⟨hreadable, rfl, rfl⟩
      | ok result =>
          obtain ⟨first, behind⟩ := result
          obtain ⟨hreadable, rfl, rfl⟩ := (hread _ _).mp rfl
          simp only [after?, ↓reduceIte]
          rw [if_pos (by simp; omega)]
          simp only [bind_eq_ok_iff, Prod.exists, ih hmembers]
          constructor
          · rintro ⟨_, _, ⟨hreadables, rfl, rfl⟩, ⟨⟩⟩
            exact ⟨⟨hreadable, hreadables⟩, rfl, rfl⟩
          · rintro ⟨⟨-, hreadables⟩, rfl, rfl⟩
            exact ⟨_, _, ⟨hreadables, rfl, rfl⟩, rfl⟩

end ItemMember

/-! ### Items -/

theorem readDeclarations_eq_ok_iff {word : String} {rest : List Token}
    {found : List Declaration} :
    readDeclarations (.word word :: rest) = .ok found ↔
      ∃ declaration after, readDeclaration (.word word) rest = .ok (declaration, after) ∧
        after.length ≤ rest.length ∧
        ∃ others, readDeclarations after = .ok others ∧ found = declaration :: others := by
  rw [readDeclarations]
  · cases hread : readDeclaration (.word word) rest with
    | error fault =>
        refine iff_of_false ?_ ?_
        · rintro ⟨⟩
        · rintro ⟨_, _, ⟨⟩, _⟩
    | ok result =>
        obtain ⟨declaration, after⟩ := result
        simp only [Except.ok.injEq, Prod.mk.injEq]
        split
        · next hlength =>
            rw [bind_eq_ok_iff]
            constructor
            · rintro ⟨others, hothers, ⟨⟩⟩
              exact ⟨_, _, ⟨rfl, rfl⟩, hlength, others, hothers, rfl⟩
            · rintro ⟨_, _, ⟨rfl, rfl⟩, -, others, hothers, rfl⟩
              exact ⟨others, hothers, rfl⟩
        · next hlength =>
            refine iff_of_false ?_ ?_
            · rintro ⟨⟩
            · rintro ⟨_, _, ⟨rfl, rfl⟩, hle, -⟩
              exact hlength hle
  · rintro _ ⟨⟩

namespace Item

/-- What has to hold of an item for it to be read. -/
def Readable : Item → Prop
  | .constant name _ => Usable name
  | .alias name _ => Usable name
  | .struct _ name members => Usable name ∧ ∀ member ∈ members, member.Readable

theorem readDeclaration_constant {name : String} (h : Name.isIdentifier name.toList)
    (value : UInt32) {rest after : List Token} {found : Declaration} :
    readDeclaration (.word "const") (.word name :: .symbol ':' false :: .word "u32" ::
        .symbol '=' false :: integerToken (some .u32) value.toNat :: .symbol ';' false :: rest) =
        .ok (found, after) ↔
      Usable name ∧ found = (Item.constant name value).declaration ∧ after = rest := by
  have htoken : integerToken (some .u32) value.toNat = .number (.integer (some .u32) value.toNat) :=
    if_pos value.toNat_lt
  have htype (rest : List Token) :
      readTypeOf (.symbol ':' false :: .word "u32" :: rest) = .ok (some (.scalar .u32), rest) := rfl
  have hvalue := readExpr_number (.integer (some .u32) value.toNat) (Or.inl rfl) rest
  rw [htoken]
  show (readName _ >>= _) = _ ↔ _
  simp only [bind_eq_ok_iff, Prod.exists]
  constructor
  · rintro ⟨_, _, hname, _, _, hu32, _, hequals, _, _, hnumber, _, hend, hfound⟩
    obtain ⟨husable, rfl, rfl⟩ := (readName_eq_ok_iff h).mp hname
    cases (htype _).symm.trans hu32
    cases (expect_symbol ..).symm.trans hequals
    cases hvalue.symm.trans hnumber
    cases (expect_symbol ..).symm.trans hend
    cases hfound
    exact ⟨husable, rfl, rfl⟩
  · rintro ⟨husable, rfl, rfl⟩
    exact ⟨_, _, (readName_eq_ok_iff h).mpr ⟨husable, rfl, rfl⟩, _, _, htype _, _,
      expect_symbol .., _, _, hvalue, _, expect_symbol .., rfl⟩

theorem readDeclaration_alias {name : String} (h : Name.isIdentifier name.toList) (type : FieldType)
    {rest after : List Token} {found : Declaration} :
    readDeclaration (.word "alias") (.word name :: .symbol '=' false ::
        (typeTokens type ++ .symbol ';' false :: rest)) = .ok (found, after) ↔
      Usable name ∧ found = (Item.alias name type).declaration ∧ after = rest := by
  show (readName _ >>= _) = _ ↔ _
  simp only [bind_eq_ok_iff, Prod.exists]
  constructor
  · rintro ⟨_, _, hname, _, hequals, _, _, htype, _, hend, hfound⟩
    obtain ⟨husable, rfl, rfl⟩ := (readName_eq_ok_iff h).mp hname
    cases (expect_symbol ..).symm.trans hequals
    cases (readType_typeTokens ..).symm.trans htype
    cases (expect_symbol ..).symm.trans hend
    cases hfound
    exact ⟨husable, rfl, rfl⟩
  · rintro ⟨husable, rfl, rfl⟩
    exact ⟨_, _, (readName_eq_ok_iff h).mpr ⟨husable, rfl, rfl⟩, _, expect_symbol .., _, _,
      readType_typeTokens .., _, expect_symbol .., rfl⟩

theorem readDeclaration_struct {name : String} (h : Name.isIdentifier name.toList)
    {members : List ItemMember}
    (hmembers : ∀ member ∈ members, Name.isIdentifier member.name.toList) (remark : String)
    {rest after : List Token} {found : Declaration} :
    readDeclaration (.word "struct") (.word name :: .symbol '\x7b' false ::
        (members.flatMap ItemMember.tokens ++ .symbol '\x7d' false :: rest)) = .ok (found, after) ↔
      (Item.struct remark name members).Readable ∧
        found = (Item.struct remark name members).declaration ∧ after = rest := by
  show (readName _ >>= _) = _ ↔ _
  simp only [bind_eq_ok_iff, Prod.exists]
  constructor
  · rintro ⟨_, _, hname, _, hbrace, _, _, hread, hfound⟩
    obtain ⟨husable, rfl, rfl⟩ := (readName_eq_ok_iff h).mp hname
    cases (expect_symbol ..).symm.trans hbrace
    obtain ⟨hreadable, rfl, rfl⟩ := (ItemMember.readMembers_eq_ok_iff hmembers).mp hread
    cases hfound
    exact ⟨⟨husable, hreadable⟩, rfl, rfl⟩
  · rintro ⟨⟨husable, hreadable⟩, rfl, rfl⟩
    exact ⟨_, _, (readName_eq_ok_iff h).mpr ⟨husable, rfl, rfl⟩, _, expect_symbol .., _, _,
      (ItemMember.readMembers_eq_ok_iff hmembers).mpr ⟨hreadable, rfl, rfl⟩, rfl⟩

/-- The declaration at the front, and what is left to read. -/
theorem readDeclarations_tokens {item : Item} (h : item.Spelled) {rest : List Token}
    {found : List Declaration} :
    readDeclarations (item.tokens ++ rest) = .ok found ↔
      item.Readable ∧ ∃ others, readDeclarations rest = .ok others ∧
        found = item.declaration :: others := by
  have hread {word : String} {tokens : List Token}
      (h : ∀ declaration after,
        readDeclaration (.word word) (tokens ++ rest) = .ok (declaration, after) ↔
          item.Readable ∧ declaration = item.declaration ∧ after = rest) :
      readDeclarations (.word word :: (tokens ++ rest)) = .ok found ↔
        item.Readable ∧ ∃ others, readDeclarations rest = .ok others ∧
          found = item.declaration :: others := by
    simp only [readDeclarations_eq_ok_iff, h]
    constructor
    · rintro ⟨_, _, ⟨hreadable, rfl, rfl⟩, -, others, hothers, rfl⟩
      exact ⟨hreadable, others, hothers, rfl⟩
    · rintro ⟨hreadable, others, hothers, rfl⟩
      exact ⟨_, _, ⟨hreadable, rfl, rfl⟩, by simp, others, hothers, rfl⟩
  cases item with
  | constant name value => exact hread fun _ _ => readDeclaration_constant h value
  | «alias» name type =>
      have htokens : (Item.alias name type).tokens ++ rest = .word "alias" ::
          (.word name :: .symbol '=' false ::
            (typeTokens type ++ [.symbol ';' false]) ++ rest) := by
        simp [tokens]
      rw [htokens]
      refine hread fun _ _ => ?_
      simpa [Readable] using readDeclaration_alias h type
  | struct remark name members =>
      obtain ⟨-, hname, hmembers⟩ := h
      have htokens : (Item.struct remark name members).tokens ++ rest = .word "struct" ::
          (.word name :: .symbol '\x7b' false ::
            (members.flatMap ItemMember.tokens ++ [.symbol '\x7d' false]) ++ rest) := by
        simp [tokens]
      rw [htokens]
      refine hread fun _ _ => ?_
      simpa using readDeclaration_struct hname hmembers remark

/-- An item whose names are spelled as identifiers, but for the name of an alias, which can also
start with a digit. -/
def Named (item : Item) : Prop :=
  item.Spelled ∨ ∃ name type, item = .alias name type ∧ name.toList.head?.any Char.isDigit

end Item

theorem Usable.startsIdentifier {name : String} (h : Usable name) {c : Char}
    (hc : c ∈ name.toList.head?) : Name.startsIdentifier c := by
  have hname := h.identifier
  cases hlist : name.toList with
  | nil =>
      rw [hlist] at hc
      cases hc
  | cons d ds =>
      rw [hlist] at hc hname
      cases hc
      exact (Bool.and_eq_true_iff.mp hname).1

/-- Nothing is read where an alias has a number in place of its name. -/
theorem readDeclarations_numbered {token : Token} (h : ∀ word, token ≠ .word word)
    (tokens : List Token) (found : List Declaration) :
    readDeclarations (.word "alias" :: token :: tokens) ≠ .ok found := by
  have hfault : readName (token :: tokens) = .error .malformed := by
    cases token with
    | word text => exact absurd rfl (h text)
    | _ => rfl
  rw [ne_eq, readDeclarations_eq_ok_iff]
  rintro ⟨_, _, hread, -⟩
  change (readName (token :: tokens) >>= _) = _ at hread
  rw [hfault] at hread
  cases hread

/-! ### Modules -/

/-- The declarations that some lines write down. -/
def readLines (lines : List String) : Except Fault (List Declaration) :=
  readDeclarations (scanLines lines)

/-- Lines that are read as the declarations of some items, whatever stands behind them, if all these
items can be read. -/
def Declare (lines : List String) (items : List Item) : Prop :=
  ∀ rest found, readLines (lines ++ rest) = .ok found ↔
    (∀ item ∈ items, item.Readable) ∧ ∃ others, readLines rest = .ok others ∧
      found = items.map Item.declaration ++ others

namespace Declare

theorem of_scanLines {lines : List String}
    (h : ∀ rest, scanLines (lines ++ rest) = scanLines rest) :
    Declare lines [] := by
  intro rest found
  rw [readLines, h, ← readLines]
  simp

theorem nil : Declare [] [] :=
  of_scanLines fun _ => rfl

theorem empty : Declare [""] [] :=
  of_scanLines scanLines_empty

theorem remark {line : String} {remark : List Char} (hline : line.toList = '/' :: '/' :: remark)
    (h : ∀ c ∈ remark, isLineEnd c = false) : Declare [line] [] :=
  of_scanLines (scanLines_remark hline h)

theorem append {first second : List String} {items others : List Item} (h : Declare first items)
    (h' : Declare second others) : Declare (first ++ second) (items ++ others) := by
  intro rest found
  rw [List.append_assoc, h, List.forall_mem_append, List.map_append]
  simp only [h' rest]
  constructor
  · rintro ⟨hitems, _, ⟨hothers, more, hmore, rfl⟩, rfl⟩
    exact ⟨⟨hitems, hothers⟩, more, hmore, (List.append_assoc ..).symm⟩
  · rintro ⟨⟨hitems, hothers⟩, more, hmore, rfl⟩
    exact ⟨hitems, _, ⟨hothers, more, hmore, rfl⟩, List.append_assoc ..⟩

theorem item {item : Item} (h : item.Named) : Declare item.lines [item] := by
  intro rest found
  rw [List.forall_mem_singleton]
  show _ ↔ _ ∧ ∃ others, _ ∧ found = item.declaration :: others
  rcases h with hspelled | ⟨name, type, rfl, hnumbered⟩
  · rw [readLines, Item.scanLines_item hspelled]
    exact Item.readDeclarations_tokens hspelled
  · obtain ⟨c, hc, hdigit⟩ := (Option.any_eq_true _ _).mp hnumbered
    obtain ⟨cs, hname⟩ : ∃ cs, name.toList = c :: cs := List.head?_eq_some_iff.mp hc
    obtain ⟨token, tokens, hscan, htoken⟩ := Item.scanLines_numbered hname hdigit type rest
    rw [readLines, hscan]
    refine iff_of_false (readDeclarations_numbered htoken tokens found) ?_
    rintro ⟨husable, -⟩
    have hstart := startsWord_of_startsIdentifier (Usable.startsIdentifier husable hc)
    rw [(isDigit_spec hdigit).2.2.1] at hstart
    cases hstart

theorem flatMap {α : Type} {keys : List α} {lines : α → List String} {items : α → List Item}
    (h : ∀ key ∈ keys, Declare (lines key) (items key)) :
    Declare (keys.flatMap lines) (keys.flatMap items) := by
  induction keys with
  | nil => exact nil
  | cons key keys ih =>
      obtain ⟨hkey, hkeys⟩ := List.forall_mem_cons.mp h
      exact hkey.append (ih hkeys)

theorem items {items : List Item} (h : ∀ item ∈ items, item.Named) :
    Declare (items.flatMap Item.lines) items := by
  have hitems := flatMap fun key hkey => item (h key hkey)
  rwa [List.flatMap_singleton'] at hitems

/-- The remark at the top of a module declares nothing. -/
theorem banner {generation : Generation}
    (hschema : ∀ c ∈ generation.schemaName.toList, isLineEnd c = false)
    (hcontract : ∀ c ∈ generation.contract.name.toList, isLineEnd c = false) :
    Declare generation.banner [] := by
  have hfirst : (s!"// This file is generated from {generation.schemaName}" ++
      " by shader-gen. Do not edit manually.").toList =
        '/' :: '/' :: (" This file is generated from ".toList ++
          (generation.schemaName.toList ++ " by shader-gen. Do not edit manually.".toList)) := by
    simp [toString]
  have hsecond : s!"// Contract: {generation.contract.name}".toList =
      '/' :: '/' :: (" Contract: ".toList ++ generation.contract.name.toList) := by
    simp [toString]
  have hlines : generation.banner = [_] ++ [_] := rfl
  rw [hlines]
  refine append (remark hfirst ?_) (remark hsecond ?_)
  · refine List.forall_mem_append.mpr ⟨isLineEnd_of_any_eq_false (by decide +kernel), ?_⟩
    exact List.forall_mem_append.mpr ⟨hschema, isLineEnd_of_any_eq_false (by decide +kernel)⟩
  · exact List.forall_mem_append.mpr ⟨isLineEnd_of_any_eq_false (by decide +kernel), hcontract⟩

theorem constants {contract : Contract} {bindingClass : BindingClass}
    (h : ∀ item ∈ classConstants contract bindingClass, item.Named) :
    Declare (constantLines contract bindingClass) (classConstants contract bindingClass) := by
  have hgap : Declare (if (classConstants contract bindingClass).isEmpty then [] else [""]) [] := by
    split
    · exact nil
    · exact empty
  have hconstants := (items h).append hgap
  rwa [List.append_nil] at hconstants

end Declare

/-- A module is read as the declarations of its items. -/
theorem read_module {generation : Generation}
    (hschema : ∀ c ∈ generation.schemaName.toList, isLineEnd c = false)
    (hcontract : ∀ c ∈ generation.contract.name.toList, isLineEnd c = false)
    (h : ∀ item ∈ items generation.contract, item.Named) {found : List Declaration} :
    read (unlines (lines generation)) = .ok found ↔
      (∀ item ∈ items generation.contract, item.Readable) ∧
        found = (items generation.contract).map Item.declaration := by
  rw [items, List.forall_mem_append, List.forall_mem_append, List.forall_mem_append] at h
  obtain ⟨⟨⟨hconstants, haliases⟩, hblocks⟩, hinputs⟩ := h
  have hlines : Declare (lines generation) (items generation.contract) := by
    have hclasses := Declare.flatMap fun bindingClass hclass => Declare.constants fun item hitem =>
      hconstants item (List.mem_flatMap.mpr ⟨bindingClass, hclass, hitem⟩)
    exact ((((Declare.banner hschema hcontract).append .empty).append hclasses).append
      (.items haliases)).append (.items hblocks) |>.append (.items hinputs)
  have hread := hlines [] found
  have hnil : readLines [] = .ok [] := by rw [readLines, scanLines_nil, readDeclarations]
  rw [List.append_nil] at hread
  show readLines (lines generation) = _ ↔ _
  rw [hread, hnil]
  refine and_congr_right fun _ => ⟨?_, ?_⟩
  · rintro ⟨_, ⟨⟩, rfl⟩
    exact List.append_nil _
  · rintro rfl
    exact ⟨[], rfl, (List.append_nil _).symm⟩

end ShaderLayout.Shader
