import ShaderLayout.Proofs.Memory.Access

/-!
A buffer as a store of the fields of a block. Over any run of calls a field
holds what the last call that succeeded on its name put there, and bytes that
belong to no such field stay as they were. No call of a run leaves the buffer.
-/

namespace ShaderLayout

namespace BlockLayout

/-- What calls and their answers leave under a name: the value of the last call that succeeded. -/
def lastStored (name : String) : List (FieldWrite × Except LayoutError Unit) → Option FieldValue
  | [] => none
  | (_, .error _) :: rest => lastStored name rest
  | (write, .ok ()) :: rest =>
    (lastStored name rest).or (if write.name = name then some write.value else none)

/-- Whether a buffer of `length` bytes takes a write. -/
def Takes (layout : BlockLayout) (length : Nat) (write : FieldWrite) : Prop :=
  ∃ field, layout.locate length write.name = .ok field ∧ write.value.type = field.type

variable {layout : BlockLayout} {bytes written : List UInt8} {write : FieldWrite}

theorem storeFields_cons {writes : List FieldWrite} {after final : List UInt8}
    {answer : Except LayoutError Unit} {answers : List (FieldWrite × Except LayoutError Unit)}
    (hstep : (layout.storeField write).on bytes = some (answer, after))
    (hrest : layout.storeFields writes after = some (answers, final)) :
    layout.storeFields (write :: writes) bytes = some ((write, answer) :: answers, final) := by
  rw [storeFields, hstep]
  simp only [Option.bind_eq_bind, Option.bind_some, hrest]
  rfl

theorem Placed.storeFields_cons_ok (hlayout : layout.Placed) {writes : List FieldWrite}
    {final : List UInt8} {answers : List (FieldWrite × Except LayoutError Unit)}
    (hwrite : layout.writeField bytes write.name write.value = .ok written)
    (hrest : layout.storeFields writes written = some (answers, final)) :
    layout.storeFields (write :: writes) bytes = some ((write, .ok ()) :: answers, final) := by
  have hstep := hlayout.on_storeField bytes write
  rw [hwrite] at hstep
  exact storeFields_cons hstep hrest

/-- After a call that fails the run goes on with the same bytes. -/
theorem Placed.storeFields_cons_error (hlayout : layout.Placed) {writes : List FieldWrite}
    {final : List UInt8} {answers : List (FieldWrite × Except LayoutError Unit)}
    {error : LayoutError}
    (hwrite : layout.writeField bytes write.name write.value = .error error)
    (hrest : layout.storeFields writes bytes = some (answers, final)) :
    layout.storeFields (write :: writes) bytes = some ((write, .error error) :: answers, final) := by
  have hstep := hlayout.on_storeField bytes write
  rw [hwrite] at hstep
  exact storeFields_cons hstep hrest

/-- What a run of calls comes to: the calls with their answers, and a buffer whose fields hold what
the calls left there. -/
structure Kept (layout : BlockLayout) (writes : List FieldWrite) (bytes : List UInt8)
    (answers : List (FieldWrite × Except LayoutError Unit)) (final : List UInt8) : Prop where
  calls : answers.map Prod.fst = writes
  length : final.length = bytes.length
  taken : ∀ write answer, (write, answer) ∈ answers →
    (answer = .ok () ↔ layout.Takes bytes.length write)
  fields : ∀ name, layout.readField final name =
    match lastStored name answers with
    | some value => .ok value
    | none => layout.readField bytes name
  bytes : ∀ place, (∀ write, (write, .ok ()) ∈ answers → ¬layout.Covers write.name place) →
    final[place]? = bytes[place]?

theorem takes_of_writeField
    (h : layout.writeField bytes write.name write.value = .ok written) :
    layout.Takes bytes.length write := by
  obtain ⟨field, hlocate, htype, -⟩ := writeField_eq_ok_iff.mp h
  exact ⟨field, hlocate, htype⟩

theorem not_takes_of_writeField {error : LayoutError}
    (h : layout.writeField bytes write.name write.value = .error error) :
    ¬layout.Takes bytes.length write := by
  rintro ⟨field, hlocate, htype⟩
  have hok := writeField_eq_ok_iff.mpr ⟨field, hlocate, htype, rfl⟩
  rw [h] at hok
  cases hok

theorem Kept.cons_ok {writes : List FieldWrite} {final : List UInt8}
    {answers : List (FieldWrite × Except LayoutError Unit)} (hlayout : layout.Placed)
    (hwrite : layout.writeField bytes write.name write.value = .ok written)
    (hkept : layout.Kept writes written answers final) :
    layout.Kept (write :: writes) bytes ((write, .ok ()) :: answers) final where
  calls := congrArg (write :: ·) hkept.calls
  length := hkept.length.trans (length_of_writeField hwrite)
  taken := by
    intro other answer hmem
    rcases List.mem_cons.mp hmem with heq | hrest
    · cases heq
      exact iff_of_true rfl (takes_of_writeField hwrite)
    · rw [← length_of_writeField hwrite]
      exact hkept.taken other answer hrest
  fields := by
    intro name
    rw [hkept.fields name, lastStored, hlayout.readField_of_writeField hwrite]
    cases lastStored name answers with
    | some value => rfl
    | none =>
        by_cases h : write.name = name
        · simp [h]
        · simp [h, Ne.symm h]
  bytes := by
    intro place hplace
    rw [hkept.bytes place fun other hother => hplace other (List.mem_cons_of_mem _ hother)]
    exact getElem?_of_writeField hwrite (hplace write List.mem_cons_self)

theorem Kept.cons_error {writes : List FieldWrite} {final : List UInt8} {error : LayoutError}
    {answers : List (FieldWrite × Except LayoutError Unit)}
    (hwrite : layout.writeField bytes write.name write.value = .error error)
    (hkept : layout.Kept writes bytes answers final) :
    layout.Kept (write :: writes) bytes ((write, .error error) :: answers) final where
  calls := congrArg (write :: ·) hkept.calls
  length := hkept.length
  taken := by
    intro other answer hmem
    rcases List.mem_cons.mp hmem with heq | hrest
    · cases heq
      exact iff_of_false nofun (not_takes_of_writeField hwrite)
    · exact hkept.taken other answer hrest
  fields := hkept.fields
  bytes := fun place hplace =>
    hkept.bytes place fun other hother => hplace other (List.mem_cons_of_mem _ hother)

theorem Placed.storeFields_kept (hlayout : layout.Placed) (writes : List FieldWrite)
    (bytes : List UInt8) :
    ∃ answers final, layout.storeFields writes bytes = some (answers, final) ∧
      layout.Kept writes bytes answers final := by
  induction writes generalizing bytes with
  | nil =>
      refine ⟨[], bytes, rfl, rfl, rfl, ?_, fun _ => rfl, fun _ _ => rfl⟩
      intro write answer hmem
      cases hmem
  | cons write writes ih =>
      cases hwrite : layout.writeField bytes write.name write.value with
      | ok written =>
          obtain ⟨answers, final, hrest, hkept⟩ := ih written
          exact ⟨_, final, hlayout.storeFields_cons_ok hwrite hrest, hkept.cons_ok hlayout hwrite⟩
      | error error =>
          obtain ⟨answers, final, hrest, hkept⟩ := ih bytes
          exact ⟨_, final, hlayout.storeFields_cons_error hwrite hrest, hkept.cons_error hwrite⟩

end BlockLayout

/-- A buffer is a store of the fields of a block. Every run of calls goes through, and what comes of
it is what `Kept` says; of single calls, a read leaves the buffer as it was, and so does a write
that fails. -/
theorem Block.fields_of_storeFields (block : Block) (rules : LayoutRules)
    (writes : List FieldWrite) (bytes : List UInt8) :
    let layout := block.layout rules
    (∃ answers final, layout.storeFields writes bytes = some (answers, final) ∧
      layout.Kept writes bytes answers final) ∧
    (∀ buffer name, (layout.loadField name).on buffer =
      some (layout.readField buffer name, buffer)) ∧
    ∀ buffer write, (layout.storeField write).on buffer =
      some (match layout.writeField buffer write.name write.value with
        | .ok written => (.ok (), written)
        | .error error => (.error error, buffer)) := by
  have hlayout := block.placed_layout rules
  exact ⟨hlayout.storeFields_kept writes bytes, hlayout.on_loadField, hlayout.on_storeField⟩

end ShaderLayout
