import ShaderLayout.Shader.Module
import ShaderLayout.Shader.Reader
import ShaderLayout.Shader.Scope

/-!
The types of a shader module that only declares data. Declarations may stand in
any order but must not need themselves; each is worked out once, behind those
that it uses. A structure places its members one behind the other, each at a
multiple of its alignment.
-/

namespace ShaderLayout.Shader

/-- A member with its size and alignment settled. -/
structure PlacedMember where
  name : String
  type : DataType
  size : Nat
  align : Nat
  deriving Repr

def isPowerOfTwo (n : Nat) : Bool :=
  n != 0 && n &&& (n - 1) == 0

/-- The size of a member: that of its type, or a larger one that an attribute gives. -/
def Member.sizeIn (scope : Scope) (member : Member) (type : DataType) : Except Fault Nat := do
  match member.size with
  | none => return type.size
  | some size =>
    let size ← size.count scope
    if size < type.size then throw (.badAttribute "size")
    return size

/-- The alignment of a member: that of its type, or a stricter one that an attribute gives. -/
def Member.alignIn (scope : Scope) (member : Member) (type : DataType) : Except Fault Nat := do
  match member.align with
  | none => return type.align
  | some align =>
    let align ← align.count scope
    if !isPowerOfTwo align ∨ align < type.align then throw (.badAttribute "align")
    return align

/-- Settles the type, the size and the alignment of a member. -/
def Member.settle (scope : Scope) (member : Member) : Except Fault PlacedMember := do
  let type ← member.type.settle scope
  let size ← member.sizeIn scope type
  let align ← member.alignIn scope type
  if let some (.location index) := member.passing then
    let _ ← index.count scope
  return ⟨member.name, type, size, align⟩

/-- The offsets of members from `cursor` on. -/
def placeMembers : Nat → List PlacedMember → List ObservedField
  | _, [] => []
  | cursor, member :: members =>
    let offset := alignUp cursor member.align
    ⟨member.name, offset⟩ :: placeMembers (offset + member.size) members

/-- The first byte behind members from `cursor` on. -/
def stopMembers : Nat → List PlacedMember → Nat
  | cursor, [] => cursor
  | cursor, member :: members => stopMembers (alignUp cursor member.align + member.size) members

/-- The strictest of some alignments, one for none. -/
def strictest (aligns : List Nat) : Nat :=
  aligns.foldr max 1

/-- The structure of some members. Attributes raise the alignment inside it and round its size, but
where the structure is itself a member, the types of its members alone count. -/
def structOf (name : String) (members : List PlacedMember) : DataType :=
  let size := alignUp (stopMembers 0 members) (strictest (members.map (·.align)))
  .struct ⟨name, size, placeMembers 0 members⟩ (strictest (members.map (·.type.align)))
    (members.map (·.type))

/-- The value of a constant with a declared type, or without one. -/
def constantValue (type? : Option DataType) (value : Value) : Except Fault Value :=
  match type? with
  | none => value.concretize
  | some type => value.convert type

/-- What a declaration declares. -/
def Declaration.entity (scope : Scope) : Declaration → Except Fault Entity
  | .alias _ type => .type <$> type.settle scope
  | .constant _ type value => do
    let type? ← type.mapM fun type => type.settle scope
    return .constant (← constantValue type? (← value.eval scope))
  | .struct name members => do
    return .type (structOf name (← members.mapM (Member.settle scope)))

/-- The scope with a declared name and all that it needs; names that are not declared are left
out. Each step into `depth` goes from a declaration to one that it uses. -/
def declare (declarations : List Declaration) : Nat → Scope → String → Except Fault Scope
  | 0, _, name => .error (.recursive name)
  | depth + 1, scope, name =>
    if (scope.lookup name).isSome then .ok scope
    else match declarations.find? fun declaration => declaration.name == name with
      | none => .ok scope
      | some declaration => do
        let scope ← declaration.names.foldlM (declare declarations depth) scope
        return (name, ← declaration.entity scope) :: scope

/-- The scope of all declarations. -/
def scopeOf (declarations : List Declaration) : Except Fault Scope :=
  (declarations.map Declaration.name).foldlM (declare declarations (declarations.length + 1)) []

/-- Checks that no name is declared twice. -/
def checkNames : List String → Except Fault Unit
  | [] => .ok ()
  | name :: names => if names.contains name then .error (.redeclared name) else checkNames names

/-- A member that is observed at its place, with its type. -/
def ModuleMember.ofField (field : ObservedField) (type : DataType) : ModuleMember DataType :=
  ⟨some field.name, type, field.offset⟩

/-- The type that a declaration adds to its module, in the scope of all. Another name for a named
type adds none. -/
def Declaration.moduleType? (scope : Scope) : Declaration → Option (ModuleType DataType)
  | .struct name _ =>
    match scope.lookup name with
    | some (.type (.struct layout _ types)) =>
      some ⟨some name, .struct (List.zipWith .ofField layout.fields types) layout.size⟩
    | _ => none
  | .alias _ (.named _) => none
  | .alias name _ =>
    match scope.lookup name with
    | some (.type type) => some ⟨some name, .other type⟩
    | _ => none
  | .constant .. => none

/-- The named types of a module. Every declaration has to make sense, also one that is no type. -/
def moduleTypes (declarations : List Declaration) : Except Fault (List (ModuleType DataType)) := do
  checkNames (declarations.map (·.name))
  let scope ← scopeOf declarations
  return declarations.filterMap (Declaration.moduleType? scope)

/-- The front end for modules that only declare data. It refuses all other modules, such as those
with functions. -/
def dataFrontEnd : FrontEnd DataType where
  types text := (read text >>= moduleTypes).mapError Fault.message

/-- The layouts of all structures that a module of data declares. -/
def layoutsOf (source : String) : Except LayoutError (List ObservedLayout) :=
  dataFrontEnd.layouts source

end ShaderLayout.Shader
