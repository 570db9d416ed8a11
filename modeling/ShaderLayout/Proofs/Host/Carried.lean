import ShaderLayout.Host.Carried
import ShaderLayout.Proofs.Host.Tables
import ShaderLayout.Proofs.Text.Digits

/-!
The schema in the text of host bindings. Whatever characters are escaped by
their code points, a literal is read as the text that it was written for, and it
ends with its own closing quote. So a host finds in its bindings the text of the
schema that they were generated from, and in that text the same contract.
-/

namespace ShaderLayout

open Text Bindings

namespace Bindings

/-! ### Literals -/

theorem scalarOfHex?_toDigits (c : Char) :
    Toml.scalarOfHex? (Nat.toDigits 16 c.toNat) = some c := by
  rw [Toml.scalarOfHex?]
  simp only [ofDigits_toDigits (by decide : 2 ≤ 16) (by decide),
    all_isHexDigit_toDigits (by decide : 2 ≤ 16) (by decide), Char.ofNat_toNat]
  exact if_pos ⟨trivial, c.valid⟩

theorem length_toDigits_toNat_le (c : Char) : (Nat.toDigits 16 c.toNat).length ≤ 6 := by
  rw [Nat.length_toDigits_le_iff (by decide) (by decide)]
  rcases c.valid with hlow | ⟨-, hhigh⟩
  · exact Nat.lt_trans hlow (by decide)
  · exact Nat.lt_trans hhigh (by decide)

/-- A code point is read up to its brace, which is no digit; nor are underscores. -/
theorem readCodePoint_toDigits (c : Char) (rest : List Char) :
    readCodePoint (Nat.toDigits 16 c.toNat ++ '\x7d' :: rest) = some (c, rest) := by
  have hdigits : ∀ digit ∈ Nat.toDigits 16 c.toNat, isHexDigit digit :=
    List.all_eq_true.mp (all_isHexDigit_toDigits (by decide) (by decide) c.toNat)
  have hothers {other : Char} (hother : isHexDigit other = false) :
      ∀ digit ∈ Nat.toDigits 16 c.toNat, (digit != other) = true := by
    intro digit hdigit
    rw [bne_iff_ne]
    rintro rfl
    rw [hdigits _ hdigit] at hother
    cases hother
  have hbrace := hothers (by decide : isHexDigit '\x7d' = false)
  have hunderscore := hothers (by decide : isHexDigit '_' = false)
  have hhead : (Nat.toDigits 16 c.toNat).head?.any (· != '_') := by
    have hne : Nat.toDigits 16 c.toNat ≠ [] := Nat.toDigits_ne_nil
    obtain ⟨digit, digits, heq⟩ := List.exists_cons_of_ne_nil hne
    rw [heq] at hunderscore ⊢
    exact hunderscore digit List.mem_cons_self
  rw [readCodePoint, List.takeWhile_append_of_pos hbrace, List.dropWhile_append_of_pos hbrace]
  simp only [List.takeWhile_cons, List.dropWhile_cons, bne_self_eq_false, Bool.false_eq_true,
    if_false, List.append_nil, List.filter_eq_self.mpr hunderscore]
  rw [if_pos ⟨hhead, length_toDigits_toNat_le c⟩, scalarOfHex?_toDigits]
  rfl

/-- An escape stands for the character that is read from it. -/
theorem readQuoted_escape (escape : List Char) {rest : List Char} {c : Char}
    (hread : readEscape (escape ++ rest) = some ([c], rest)) (hne : escape ≠ []) :
    readQuoted ('\\' :: (escape ++ rest)) =
      (readQuoted rest).map fun (read, behind) => (c :: read, behind) := by
  have hlength : rest.length < (escape ++ rest).length := by
    have hpos := List.length_pos_of_ne_nil hne
    rw [List.length_append]
    omega
  rw [readQuoted, if_neg (by decide), if_pos rfl, hread]
  exact if_pos hlength

theorem readQuoted_escapeChar (hidden : Char → Bool) (c : Char) (rest : List Char) :
    readQuoted (escapeChar hidden c ++ rest) =
      (readQuoted rest).map fun (read, behind) => (c :: read, behind) := by
  rw [escapeChar]
  split_ifs with hquote hbackslash hline hreturn htab hnull hhidden
  · subst hquote
    exact readQuoted_escape ['"'] rfl (by decide)
  · subst hbackslash
    exact readQuoted_escape ['\\'] rfl (by decide)
  · subst hline
    exact readQuoted_escape ['n'] rfl (by decide)
  · subst hreturn
    exact readQuoted_escape ['r'] rfl (by decide)
  · subst htab
    exact readQuoted_escape ['t'] rfl (by decide)
  · subst hnull
    exact readQuoted_escape ['0'] rfl (by decide)
  · refine readQuoted_escape ('u' :: '\x7b' :: (Nat.toDigits 16 c.toNat ++ ['\x7d'])) ?_
      (List.cons_ne_nil _ _)
    rw [List.cons_append, List.cons_append, List.append_assoc, readEscape]
    simp only [List.singleton_append, readCodePoint_toDigits]
    rfl
  · rw [List.singleton_append, readQuoted, if_neg hquote, if_neg hbackslash, if_neg hreturn]

/-- A literal is read as its text, up to its closing quote. -/
theorem readLiteral_literalChars (hidden : Char → Bool) (text rest : List Char) :
    readLiteral (literalChars hidden text ++ rest) = some (text, rest) := by
  have hquoted :
      readQuoted (text.flatMap (escapeChar hidden) ++ '"' :: rest) = some (text, rest) := by
    induction text with
    | nil => rw [List.flatMap_nil, List.nil_append, readQuoted, if_pos rfl]
    | cons c text ih =>
        rw [List.flatMap_cons, List.append_assoc, readQuoted_escapeChar, ih]
        rfl
  rw [literalChars, List.cons_append, List.cons_append, List.append_assoc]
  exact hquoted

/-! ### The constant in the text -/

theorem behindStart?_append (start : List Char) {line : List Char} (hline : '\n' ∉ line)
    (rest : List Char) : behindStart? start (line ++ rest) = behindStart? start rest := by
  induction line with
  | nil => rfl
  | cons c line ih =>
      obtain ⟨hc, hline⟩ := List.ne_and_not_mem_of_not_mem_cons hline
      rw [List.cons_append, behindStart?, if_neg fun h => hc h.1.symm, ih hline]

/-- A start without a line break lies within the line that it is the start of. -/
theorem prefix_of_prefix_append {start line rest : List Char} (hstart : '\n' ∉ start)
    (h : start <+: line ++ '\n' :: rest) : start <+: line := by
  rcases List.prefix_or_prefix_of_prefix h (List.prefix_append line ('\n' :: rest)) with h' | h'
  · exact h'
  obtain ⟨more, rfl⟩ := h'
  cases more with
  | nil => simp
  | cons c more =>
      have hbreak := (List.cons_prefix_cons.mp ((List.prefix_append_right_inj line).mp h)).1
      exact absurd (List.mem_append_right line (hbreak ▸ List.mem_cons_self)) hstart

/-- A definition is found behind lines that start differently. -/
theorem behindStart?_unlines {start definition first : String} {before after : List String}
    (hbreaks : ∀ line ∈ first :: before, '\n' ∉ line.toList) (hstart : '\n' ∉ start.toList)
    (hbefore : ∀ line ∈ before, ¬start.toList <+: line.toList) :
    behindStart? start.toList
        (unlines (first :: (before ++ (start ++ definition) :: after))).toList =
      some (definition.toList ++ '\n' :: (unlines after).toList) := by
  induction before generalizing first with
  | nil =>
      have hprefix := List.prefix_append start.toList
        (definition.toList ++ '\n' :: (unlines after).toList)
      rw [List.nil_append, toList_unlines_cons,
        behindStart?_append _ (hbreaks first List.mem_cons_self), toList_unlines_cons,
        String.toList_append, List.append_assoc, behindStart?,
        if_pos ⟨rfl, List.isPrefixOf_iff_prefix.mpr hprefix⟩, List.drop_left]
  | cons second before ih =>
      obtain ⟨hfirst, hbreaks⟩ := List.forall_mem_cons.mp hbreaks
      obtain ⟨hsecond, hbefore⟩ := List.forall_mem_cons.mp hbefore
      have hprefix : ¬start.toList.isPrefixOf
          (unlines (second :: (before ++ (start ++ definition) :: after))).toList := by
        rw [toList_unlines_cons, List.isPrefixOf_iff_prefix]
        exact fun h => hsecond (prefix_of_prefix_append hstart h)
      rw [List.cons_append, toList_unlines_cons, behindStart?_append _ hfirst, behindStart?,
        if_neg fun h => hprefix h.2]
      exact ih hbreaks hbefore

variable {contract : Contract} {schemaName source : String} {bindings : Bindings}

/-- The text of the schema is defined behind the banner and a remark. -/
theorem exists_lines_eq (contract : Contract) (schemaName source : String) (bindings : Bindings) :
    ∃ after, lines ⟨contract, schemaName, some source⟩ bindings =
      s!"// This file is generated from {schemaName} by shader-gen. Do not edit manually." ::
        ([s!"// Contract: {contract.name}", "", s!"/// 生成时使用的 `{schemaName}` 原文"] ++
          (schemaStart ++ literal source ++ ";") :: after) :=
  ⟨_, rfl⟩

/-- A host reads the text of the schema where the name of the schema is on one line. -/
theorem carriedText?_lines (hname : '\n' ∉ schemaName.toList)
    (hcontract : '\n' ∉ contract.name.toList) :
    carriedText? (unlines (lines ⟨contract, schemaName, some source⟩ bindings)) = some source := by
  obtain ⟨after, hlines⟩ := exists_lines_eq contract schemaName source bindings
  have hbreaks : ∀ line ∈
      [s!"// This file is generated from {schemaName} by shader-gen. Do not edit manually.",
        s!"// Contract: {contract.name}", "", s!"/// 生成时使用的 `{schemaName}` 原文"],
      '\n' ∉ line.toList := by
    simp [toString, hname, hcontract]
  have hbefore : ∀ line ∈
      [s!"// Contract: {contract.name}", "", s!"/// 生成时使用的 `{schemaName}` 原文"],
      ¬schemaStart.toList <+: line.toList := by
    simp [toString, schemaStart]
  have hdefinition : behindStart? schemaStart.toList
      (unlines (lines ⟨contract, schemaName, some source⟩ bindings)).toList =
      some (literalChars isHidden source.toList ++ (';' :: '\n' :: (unlines after).toList)) := by
    rw [hlines, @String.append_assoc schemaStart, behindStart?_unlines hbreaks (by decide) hbefore,
      String.toList_append, literal, String.toList_ofList, List.append_assoc]
    rfl
  rw [carriedText?, hdefinition]
  simp only [Option.bind_eq_bind, Option.bind_some, readLiteral_literalChars]
  simp

theorem unlines_append_cons (before : List String) (line : String) (after : List String) :
    unlines (before ++ line :: after) = unlines before ++ line ++ ("\n" ++ unlines after) := by
  simp [unlines, String.append_assoc]

/-- Whatever the schema is called, the text of bindings has the definition in it. -/
theorem exists_unlines_lines_eq (contract : Contract) (schemaName source : String)
    (bindings : Bindings) :
    ∃ before after, unlines (lines ⟨contract, schemaName, some source⟩ bindings) =
      before ++ (schemaStart ++ literal source ++ ";") ++ after := by
  obtain ⟨after, hlines⟩ := exists_lines_eq contract schemaName source bindings
  rw [hlines, ← List.cons_append, unlines_append_cons]
  exact ⟨_, _, rfl⟩

end Bindings

/-- Every text is read from its literal, which ends with its own closing quote, no matter which
characters are escaped by their code points. Bindings hold the literal of their schema's text, and
from it a host gets that text and the contract that the bindings were generated from. -/
theorem Contract.carried_text_is_schema (source : String) :
    (∀ hidden rest, readLiteral (literalChars hidden source.toList ++ rest) =
      some (source.toList, rest)) ∧
    (∀ contract schemaName file, Target.rust.text ⟨contract, schemaName, some source⟩ = .ok file →
      ∃ before after, file = before ++ (schemaStart ++ literal source ++ ";") ++ after) ∧
    ∀ contract schemaName, Contract.ofText source = .ok contract → '\n' ∉ schemaName.toList →
      ∃ file, Target.rust.text ⟨contract, schemaName, some source⟩ = .ok file ∧
        carriedText? file = some source ∧ Contract.ofBindings? file = some (.ok contract) := by
  refine ⟨fun hidden rest => readLiteral_literalChars hidden source.toList rest, ?_, ?_⟩
  · intro contract schemaName file h
    obtain ⟨bindings, -, hfile⟩ := bind_eq_ok_iff.mp h
    cases hfile
    exact exists_unlines_lines_eq contract schemaName source bindings
  · intro contract schemaName h hname
    obtain ⟨schema, -, hvalid⟩ := bind_eq_ok_iff.mp h
    obtain ⟨bindings, hbindings, -⟩ := exists_renders hvalid
    have hcontract : '\n' ∉ contract.name.toList := by
      obtain ⟨hwell, hyields⟩ := Schema.validate_eq_ok_iff.mp hvalid
      intro hmem
      rw [hyields.name] at hmem
      exact absurd (Name.inIdentifier_of_isIdentifier (Name.isAccepted_iff.mp hwell.name).1 hmem)
        (by decide)
    have hcarried :
        carriedText? (unlines (lines ⟨contract, schemaName, some source⟩ bindings)) = some source :=
      carriedText?_lines hname hcontract
    refine ⟨_, bind_eq_ok_iff.mpr ⟨bindings, hbindings, rfl⟩, hcarried, ?_⟩
    rw [Contract.ofBindings?, hcarried, Option.map_some, h]

/-- A schema with backslashes in front of a quote, a hidden blank in front of digits, a mark on a
brace, and line breaks of both kinds. -/
def Schema.remarkedText : String :=
  "# \\\\\"\\\" \u200b12\x7b\u0301\t\n[contract]\r\nname = \"Remarked\"\n" ++
    "[bindings]\nbuffers = [\"frame\"]\n"

def Schema.remarkedContract : Contract where
  name := "Remarked"
  hostRules := .metal
  slots := [⟨"frame", .buffer, 0, .block⟩]
  blocks := []
  vertexInputs := []

theorem Contract.remarked_text_is_carried :
    Contract.ofText Schema.remarkedText = .ok Schema.remarkedContract ∧
      '\n' ∉ "layout.toml".toList ∧
      readLiteral (literalChars Char.isAlpha Schema.remarkedText.toList ++ "\";".toList) =
        some (Schema.remarkedText.toList, "\";".toList) ∧
      ∃ file before after,
        Target.rust.text ⟨Schema.remarkedContract, "layout.toml", some Schema.remarkedText⟩ =
          .ok file ∧
        file = before ++ (schemaStart ++ literal Schema.remarkedText ++ ";") ++ after ∧
        Contract.ofBindings? file = some (.ok Schema.remarkedContract) := by
  have htext : Contract.ofText Schema.remarkedText = .ok Schema.remarkedContract := by
    have hsome : (Contract.ofText Schema.remarkedText).toOption = some Schema.remarkedContract := by
      decide +kernel
    cases hresult : Contract.ofText Schema.remarkedText with
    | error error =>
        rw [hresult] at hsome
        cases hsome
    | ok contract =>
        rw [hresult] at hsome
        exact congrArg Except.ok (Option.some.inj hsome)
  have hname : '\n' ∉ "layout.toml".toList := by decide
  obtain ⟨hliteral, hdefinition, hcarried⟩ :=
    Contract.carried_text_is_schema Schema.remarkedText
  obtain ⟨file, hfile, -, hread⟩ := hcarried Schema.remarkedContract "layout.toml" htext hname
  obtain ⟨before, after, heq⟩ := hdefinition Schema.remarkedContract "layout.toml" file hfile
  exact ⟨htext, hname, hliteral Char.isAlpha _, file, before, after, hfile, heq, hread⟩

end ShaderLayout
