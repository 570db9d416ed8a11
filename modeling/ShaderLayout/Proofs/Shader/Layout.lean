import Mathlib.Algebra.Ring.Nat
import Mathlib.Data.List.Nodup
import ShaderLayout.Proofs.Checks
import ShaderLayout.Proofs.Layout.Comparison
import ShaderLayout.Shader.Items
import ShaderLayout.Shader.Layout

/-!
Layouts of the declarations of items. Items use no names of each other, so each
stands for the same in every scope, and the scope of all has every item under its
name. Their structures are laid out when no name is declared twice and no
location is too large for an index.
-/

namespace ShaderLayout.Shader

/-! ### Types -/

/-- The type of a field with its component settled. -/
def dataType : FieldType → DataType
  | .float => .scalar (.typed .f32)
  | .int => .scalar (.typed .i32)
  | .uint => .scalar (.typed .u32)
  | .float2 => .vector .two (.typed .f32)
  | .float3 => .vector .three (.typed .f32)
  | .float4 => .vector .four (.typed .f32)
  | .int2 => .vector .two (.typed .i32)
  | .int4 => .vector .four (.typed .i32)
  | .uint2 => .vector .two (.typed .u32)
  | .uint4 => .vector .four (.typed .u32)
  | .float3x3 => .matrix .three .three (.typed .f32)
  | .float4x4 => .matrix .four .four (.typed .f32)

theorem settle_fieldTypeExpr (scope : Scope) (type : FieldType) :
    (fieldTypeExpr type).settle scope = .ok (dataType type) := by
  cases type <;> rfl

@[simp] theorem size_dataType (type : FieldType) : (dataType type).size = type.size .wgsl := by
  cases type <;> rfl

@[simp] theorem align_dataType (type : FieldType) : (dataType type).align = type.align := by
  cases type <;> rfl

/-- A location is an index of 32 bits with a sign. -/
theorem count_index (scope : Scope) {index count : Nat} :
    Expr.count scope (.literal (.integer none index)) = .ok count ↔
      index < 2 ^ 31 ∧ count = index := by
  have hinteger : Scalar.i32.isInteger := rfl
  have hconcretize : Value.concretize (.scalar (.integer none index)) =
      Value.scalar <$> Constant.integer? (some .i32) index := by
    show Value.scalar <$> Constant.cast (.typed .i32) (.integer none index) = _
    rw [Constant.cast, if_pos hinteger]
  have hholds : holds (some .i32) index ↔ index < 2 ^ 31 := by
    have hbound : Nat.pow 2 31 = 2 ^ 31 := rfl
    simp only [holds, Bool.and_eq_true, decide_eq_true_eq, hbound]
    omega
  have hcount : Expr.count scope (.literal (.integer none index)) =
      Value.count (.scalar (.integer none index)) := by
    rw [Expr.count, Expr.eval]
    exact pure_bind (Value.scalar (.integer none index)) Value.count
  rw [hcount, Value.count, hconcretize, Constant.integer?]
  by_cases h : index < 2 ^ 31
  · rw [if_pos (hholds.mpr h), and_iff_right h]
    show (if (some Scalar.i32 = some .i32 ∨ some Scalar.i32 = some .u32) ∧ (0 : Int) ≤ index then
      Except.ok (index : Int).toNat else .error Fault.badValue) = _ ↔ _
    rw [if_pos ⟨Or.inl rfl, Int.natCast_nonneg index⟩, Int.toNat_natCast, Except.ok.injEq, eq_comm]
  · rw [if_neg (mt hholds.mp h)]
    exact iff_of_false nofun fun hcount => h hcount.1

/-! ### Members -/

namespace ItemMember

/-- The member with its size and alignment settled. -/
def placed (member : ItemMember) : PlacedMember :=
  let type := dataType member.type
  ⟨member.name, type, type.size, type.align⟩

/-- What has to hold of a member for it to be placed. -/
def Located (member : ItemMember) : Prop :=
  ∀ index ∈ member.location, index < 2 ^ 31

theorem settle_eq_ok_iff {scope : Scope} {member : ItemMember} {placed : PlacedMember} :
    member.declaration.settle scope = .ok placed ↔ member.Located ∧ placed = member.placed := by
  obtain ⟨location, name, type, offset⟩ := member
  simp only [Member.settle, Member.sizeIn, Member.alignIn, declaration, settle_fieldTypeExpr,
    bind_eq_ok_iff]
  cases location with
  | none =>
      constructor
      · rintro ⟨_, ⟨⟩, _, ⟨⟩, _, ⟨⟩, ⟨⟩⟩
        exact ⟨nofun, rfl⟩
      · rintro ⟨-, rfl⟩
        exact ⟨_, rfl, _, rfl, _, rfl, rfl⟩
  | some index =>
      simp only [Option.map_some, bind_eq_ok_iff, count_index]
      constructor
      · rintro ⟨_, ⟨⟩, _, ⟨⟩, _, ⟨⟩, _, ⟨hindex, -⟩, ⟨⟩⟩
        refine ⟨?_, rfl⟩
        rintro _ ⟨⟩
        exact hindex
      · rintro ⟨hlocated, rfl⟩
        exact ⟨_, rfl, _, rfl, _, rfl, index, ⟨hlocated index rfl, rfl⟩, rfl⟩

end ItemMember

/-! ### Items -/

namespace Item

def name : Item → String
  | .constant name _ | .alias name _ | .struct _ name _ => name

@[simp] theorem name_declaration (item : Item) : item.declaration.name = item.name := by
  cases item <;> rfl

theorem map_name_declaration (items : List Item) :
    (items.map declaration).map Declaration.name = items.map name := by
  rw [List.map_map]
  exact List.map_congr_left fun item _ => item.name_declaration

/-- What the name of an item stands for. -/
def entity : Item → Entity
  | .constant _ value => .constant (.scalar (.integer (some .u32) value.toNat))
  | .alias _ type => .type (dataType type)
  | .struct _ name members => .type (structOf name (members.map ItemMember.placed))

/-- What has to hold of an item for it to be laid out. -/
def Located : Item → Prop
  | .struct _ _ members => ∀ member ∈ members, member.Located
  | _ => True

theorem names_declaration (item : Item) : item.declaration.names = [] := by
  have htype (type : FieldType) : (fieldTypeExpr type).names = [] := by
    cases type <;> rfl
  cases item with
  | constant name value => rfl
  | «alias» name type => exact htype type
  | struct remark name members =>
      refine List.flatMap_eq_nil_iff.mpr (List.forall_mem_map.mpr fun member _ => ?_)
      rw [ItemMember.declaration, Member.names, htype]
      cases member.location <;> rfl

theorem entity_eq_ok_iff {scope : Scope} {item : Item} {entity : Entity} :
    item.declaration.entity scope = .ok entity ↔ item.Located ∧ entity = item.entity := by
  cases item with
  | constant name value =>
      show Except.ok (Item.constant name value).entity = _ ↔ _
      rw [Except.ok.injEq, eq_comm]
      exact (and_iff_right trivial).symm
  | «alias» name type =>
      rw [declaration, Declaration.entity, settle_fieldTypeExpr]
      show Except.ok (Item.alias name type).entity = _ ↔ _
      rw [Except.ok.injEq, eq_comm]
      exact (and_iff_right trivial).symm
  | struct remark name members =>
      have hmembers (member : ItemMember) (placed : PlacedMember) :
          (Member.settle scope ∘ ItemMember.declaration) member = .ok placed ↔
            member.Located ∧ placed = member.placed := ItemMember.settle_eq_ok_iff
      rw [declaration, Declaration.entity, List.mapM_map]
      simp only [bind_eq_ok_iff, mapM_eq_ok_iff_map hmembers]
      constructor
      · rintro ⟨_, ⟨hlocated, rfl⟩, ⟨⟩⟩
        exact ⟨hlocated, rfl⟩
      · rintro ⟨hlocated, rfl⟩
        exact ⟨_, ⟨hlocated, rfl⟩, rfl⟩

end Item

/-! ### Scopes -/

/-- The scope of some items, the latest first. -/
def scopeOfItems (items : List Item) : Scope :=
  (items.map fun item => (item.name, item.entity)).reverse

theorem lookup_scopeOfItems {items : List Item} (hnames : (items.map Item.name).Nodup) {item : Item}
    (h : item ∈ items) : (scopeOfItems items).lookup item.name = some item.entity := by
  obtain ⟨earlier, later, rfl⟩ := List.append_of_mem h
  rw [List.lookup_eq_some_iff]
  refine ⟨scopeOfItems later, scopeOfItems earlier, by simp [scopeOfItems], fun entry hentry => ?_⟩
  obtain ⟨other, hother, rfl⟩ := List.mem_map.mp (List.mem_reverse.mp hentry)
  rw [bne_iff_ne]
  intro heq
  rw [List.map_append, List.map_cons] at hnames
  have hlater := (List.nodup_cons.mp hnames.of_append_right).1
  exact hlater (heq ▸ List.mem_map_of_mem hother)

theorem lookup_scopeOfItems_eq_none {items : List Item} {name : String}
    (h : name ∉ items.map Item.name) : (scopeOfItems items).lookup name = none := by
  rw [List.lookup_eq_none_iff]
  intro entry hentry
  obtain ⟨item, hitem, rfl⟩ := List.mem_map.mp (List.mem_reverse.mp hentry)
  rw [bne_iff_ne]
  rintro rfl
  exact h (List.mem_map_of_mem hitem)

/-- One more name that is not in the scope yet. -/
theorem declare_eq_ok_iff {items earlier later : List Item} {item : Item}
    (hitems : items = earlier ++ item :: later) (hnames : (items.map Item.name).Nodup) {depth : Nat}
    {scope : Scope} :
    declare (items.map Item.declaration) (depth + 1) (scopeOfItems earlier) item.name = .ok scope ↔
      item.Located ∧ scope = scopeOfItems (earlier ++ [item]) := by
  -- The name is not in the scope yet, and among all declarations it finds this one.
  have hnew : item.name ∉ earlier.map Item.name := by
    rw [hitems, List.map_append, List.map_cons] at hnames
    exact fun hmem => (List.nodup_append.mp hnames).2.2 _ hmem _ List.mem_cons_self rfl
  have hfind : (items.map Item.declaration).find?
      (fun declaration => declaration.name == item.name) = some item.declaration := by
    have hmem : item ∈ items := hitems ▸ List.mem_append_right earlier List.mem_cons_self
    have hsame : ((fun declaration : Declaration => declaration.name == item.name) ∘
        Item.declaration) = fun other => other.name == item.name := by
      funext other
      rw [Function.comp_apply, Item.name_declaration]
    rw [List.find?_map, hsame, find?_name_of_mem hnames hmem]
    rfl
  rw [declare, lookup_scopeOfItems_eq_none hnew, hfind]
  simp only [Option.isSome_none, Bool.false_eq_true, if_false, Item.names_declaration,
    List.foldlM_nil, bind_eq_ok_iff, Item.entity_eq_ok_iff]
  constructor
  · rintro ⟨_, ⟨⟩, _, ⟨hlocated, rfl⟩, ⟨⟩⟩
    exact ⟨hlocated, by simp [scopeOfItems]⟩
  · rintro ⟨hlocated, rfl⟩
    exact ⟨_, rfl, _, ⟨hlocated, rfl⟩, by simp [scopeOfItems]; rfl⟩

theorem scopeOf_eq_ok_iff {items : List Item} (hnames : (items.map Item.name).Nodup)
    {scope : Scope} :
    scopeOf (items.map Item.declaration) = .ok scope ↔
      (∀ item ∈ items, item.Located) ∧ scope = scopeOfItems items := by
  -- The items are declared in order; those before are in the scope already.
  have hfold {earlier later : List Item} (hitems : items = earlier ++ later) {scope : Scope} :
      (later.map Item.name).foldlM (declare (items.map Item.declaration) (items.length + 1))
          (scopeOfItems earlier) = .ok scope ↔
        (∀ item ∈ later, item.Located) ∧ scope = scopeOfItems (earlier ++ later) := by
    induction later generalizing earlier scope with
    | nil =>
        rw [List.map_nil, List.foldlM_nil, List.append_nil]
        exact ⟨fun h => ⟨nofun, (Except.ok.inj h).symm⟩, fun ⟨_, h⟩ => congrArg Except.ok h.symm⟩
    | cons item later ih =>
        have hrest : items = (earlier ++ [item]) ++ later := by simp [hitems]
        rw [List.map_cons, List.foldlM_cons, bind_eq_ok_iff, List.forall_mem_cons]
        simp only [declare_eq_ok_iff hitems hnames]
        constructor
        · rintro ⟨_, ⟨hlocated, rfl⟩, hfold⟩
          obtain ⟨hlocateds, rfl⟩ := (ih hrest).mp hfold
          exact ⟨⟨hlocated, hlocateds⟩, by simp⟩
        · rintro ⟨⟨hlocated, hlocateds⟩, rfl⟩
          exact ⟨_, ⟨hlocated, rfl⟩, (ih hrest).mpr ⟨hlocateds, by simp⟩⟩
  rw [scopeOf, Item.map_name_declaration, List.length_map]
  exact hfold (List.nil_append items).symm

/-! ### Structures -/

theorem checkNames_eq_ok_iff {names : List String} : checkNames names = .ok () ↔ names.Nodup := by
  induction names with
  | nil => exact iff_of_true rfl .nil
  | cons name names ih =>
      rw [checkNames, List.nodup_cons, ← ih, ← List.contains_iff_mem]
      split
      · next h => exact iff_of_false nofun fun hnames => hnames.1 h
      · next h => exact (and_iff_right h).symm

theorem length_placeMembers (cursor : Nat) (members : List PlacedMember) :
    (placeMembers cursor members).length = members.length := by
  induction members generalizing cursor with
  | nil => rfl
  | cons member members ih => exact congrArg (· + 1) (ih _)

theorem map_observed_ofField {fields : List ObservedField} {types : List DataType}
    (h : fields.length = types.length) :
    (List.zipWith ModuleMember.ofField fields types).map ModuleMember.observed = fields := by
  induction fields generalizing types with
  | nil => rfl
  | cons field fields ih =>
      cases types with
      | nil => cases h
      | cons type types => exact congrArg (field :: ·) (ih (Nat.succ_inj.mp h))

/-- The structure of some members, as its module has it. -/
def structInner (members : List PlacedMember) : TypeInner DataType :=
  .struct (List.zipWith .ofField (placeMembers 0 members) (members.map (·.type)))
    (alignUp (stopMembers 0 members) (strictest (members.map (·.align))))

/-- The type that an item adds to its module. -/
def Item.moduleType? : Item → Option (ModuleType DataType)
  | .constant .. => none
  | .alias name type => some ⟨some name, .other (dataType type)⟩
  | .struct _ name members => some ⟨some name, structInner (members.map ItemMember.placed)⟩

/-- The layout of an item, if it is a structure. -/
def Item.layout? : Item → Option ObservedLayout
  | .struct _ name members =>
    let placed := members.map ItemMember.placed
    some ⟨name, alignUp (stopMembers 0 placed) (strictest (placed.map (·.align))),
      placeMembers 0 placed⟩
  | _ => none

theorem Item.layout?_moduleType? (item : Item) :
    item.moduleType?.bind ModuleType.layout? = item.layout? := by
  cases item with
  | constant name value => rfl
  | «alias» name type => rfl
  | struct remark name members =>
      have hlength : (placeMembers 0 (members.map ItemMember.placed)).length =
          ((members.map ItemMember.placed).map (·.type)).length := by
        simp only [length_placeMembers, List.length_map]
      show some (ObservedLayout.mk _ _ _) = some _
      rw [map_observed_ofField hlength]

theorem filterMap_layout?_moduleType? (items : List Item) :
    (items.filterMap Item.moduleType?).filterMap ModuleType.layout? =
      items.filterMap Item.layout? := by
  rw [List.filterMap_filterMap]
  exact List.filterMap_congr fun item _ => item.layout?_moduleType?

theorem moduleType?_declaration {items : List Item} (hnames : (items.map Item.name).Nodup)
    {item : Item} (h : item ∈ items) :
    item.declaration.moduleType? (scopeOfItems items) = item.moduleType? := by
  have hlookup := lookup_scopeOfItems hnames h
  cases item with
  | constant name value => rfl
  | «alias» name type =>
      have hlookup : (scopeOfItems items).lookup name = some (.type (dataType type)) := hlookup
      have hnamed (other : String) : fieldTypeExpr type ≠ .named other := by
        cases type <;> exact nofun
      rw [Item.declaration, Declaration.moduleType?, hlookup]
      · rfl
      · exact hnamed
  | struct remark name members =>
      have hlookup : (scopeOfItems items).lookup name =
          some (Item.struct remark name members).entity := hlookup
      rw [Item.declaration, Declaration.moduleType?, hlookup]
      rfl

theorem moduleTypes_eq_ok_iff {items : List Item} {types : List (ModuleType DataType)} :
    moduleTypes (items.map Item.declaration) = .ok types ↔
      (items.map Item.name).Nodup ∧ (∀ item ∈ items, item.Located) ∧
        types = items.filterMap Item.moduleType? := by
  have htypes (h : (items.map Item.name).Nodup) :
      (items.map Item.declaration).filterMap (Declaration.moduleType? (scopeOfItems items)) =
        items.filterMap Item.moduleType? := by
    rw [List.filterMap_map]
    exact List.filterMap_congr fun item hitem => moduleType?_declaration h hitem
  rw [moduleTypes]
  simp only [bind_eq_ok_iff, Item.map_name_declaration]
  constructor
  · rintro ⟨_, hchecked, _, hscope, ⟨⟩⟩
    have hnodup := checkNames_eq_ok_iff.mp hchecked
    obtain ⟨hlocated, rfl⟩ := (scopeOf_eq_ok_iff hnodup).mp hscope
    exact ⟨hnodup, hlocated, htypes hnodup⟩
  · rintro ⟨hnodup, hlocated, rfl⟩
    refine ⟨(), checkNames_eq_ok_iff.mpr hnodup, _,
      (scopeOf_eq_ok_iff hnodup).mpr ⟨hlocated, rfl⟩, ?_⟩
    exact congrArg Except.ok (htypes hnodup)

/-! ### Blocks -/

/-- A placed field as a member of the structure for its block. -/
def ItemMember.ofField (field : FieldLayout) : ItemMember :=
  ⟨none, field.name, field.type, some field.offset⟩

def PlacedMember.ofField (field : FieldLayout) : PlacedMember :=
  (ItemMember.ofField field).placed

theorem stopMembers_placeAll (cursor : Nat) (fields : List Field) :
    stopMembers cursor
        ((FieldLayout.placeAll .wgsl cursor fields).map PlacedMember.ofField) =
      FieldLayout.stopAll .wgsl cursor fields := by
  induction fields generalizing cursor with
  | nil => rfl
  | cons field fields ih =>
      rw [FieldLayout.stopAll, ← ih]
      simp [FieldLayout.placeAll, stopMembers, PlacedMember.ofField, ItemMember.placed,
        ItemMember.ofField, FieldLayout.place, FieldLayout.stop]

theorem placeMembers_placeAll (cursor : Nat) (fields : List Field) :
    placeMembers cursor
        ((FieldLayout.placeAll .wgsl cursor fields).map PlacedMember.ofField) =
      (FieldLayout.placeAll .wgsl cursor fields).map FieldLayout.observed := by
  induction fields generalizing cursor with
  | nil => rfl
  | cons field fields ih =>
      rw [FieldLayout.placeAll, List.map_cons (f := FieldLayout.observed), ← ih]
      simp [placeMembers, PlacedMember.ofField, ItemMember.placed, ItemMember.ofField,
        FieldLayout.place, FieldLayout.stop, FieldLayout.observed]

theorem strictest_placeAll (cursor : Nat) (fields : List Field) :
    strictest (((FieldLayout.placeAll .wgsl cursor fields).map PlacedMember.ofField).map
        (·.align)) =
      fields.foldr (fun field align => max field.type.align align) 1 := by
  induction fields generalizing cursor with
  | nil => rfl
  | cons field fields ih =>
      rw [List.foldr_cons, ← ih (FieldLayout.place .wgsl cursor field).stop]
      simp [FieldLayout.placeAll, strictest, PlacedMember.ofField, ItemMember.placed,
        ItemMember.ofField, FieldLayout.place]

/-- The structure of a block is laid out as the block itself. -/
theorem layout?_ofBlock (block : Block) :
    (Item.ofBlock (block.layout .wgsl)).layout? = some (block.layout .wgsl).observed := by
  have hitem : Item.ofBlock (block.layout .wgsl) = .struct s!"{(block.layout .wgsl).size} bytes"
      block.name ((FieldLayout.placeAll .wgsl 0 block.fields).map ItemMember.ofField) := rfl
  have hplaced : ((FieldLayout.placeAll .wgsl 0 block.fields).map ItemMember.ofField).map
      ItemMember.placed = (FieldLayout.placeAll .wgsl 0 block.fields).map PlacedMember.ofField :=
    List.map_map
  rw [hitem, Item.layout?, hplaced, stopMembers_placeAll, placeMembers_placeAll, strictest_placeAll]
  rfl

end ShaderLayout.Shader
