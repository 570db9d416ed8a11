import ShaderLayout.Error
import ShaderLayout.Layout.Observed

/-!
What a front end makes of a shader module: a list of the types in it, or a
message that says why it refuses the text. What types there can be is up to the
front end. Of the structures that have a name, their size and the names and
offsets of their members can be observed.
-/

namespace ShaderLayout.Shader

variable {α : Type}

structure ModuleMember (α : Type) where
  name : Option String
  type : α
  offset : Nat

/-- A structure with its members and its size, or any other type. -/
inductive TypeInner (α : Type) where
  | struct (members : List (ModuleMember α)) (span : Nat)
  | other (type : α)

structure ModuleType (α : Type) where
  name : Option String
  inner : TypeInner α

structure FrontEnd (α : Type) where
  /-- The types of a module, in order, or a message. -/
  types : String → Except String (List (ModuleType α))

/-- What can be observed of a member; one without a name counts as having an empty one. -/
def ModuleMember.observed (member : ModuleMember α) : ObservedField :=
  ⟨member.name.getD "", member.offset⟩

/-- The layout of a type, if it is a structure with a name. -/
def ModuleType.layout? : ModuleType α → Option ObservedLayout
  | ⟨some name, .struct members span⟩ => some ⟨name, span, members.map ModuleMember.observed⟩
  | _ => none

/-- The layouts of the named structures of a module. -/
def FrontEnd.layouts (frontEnd : FrontEnd α) (source : String) :
    Except LayoutError (List ObservedLayout) := do
  let types ← (frontEnd.types source).mapError .shaderMalformed
  return types.filterMap ModuleType.layout?

end ShaderLayout.Shader
