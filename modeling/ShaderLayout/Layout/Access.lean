import ShaderLayout.Layout.Memory

/-!
Reading and writing blocks one word after another. Here a buffer is state: an
access outside it is a fault, which ends all work, and an error leaves it with
whatever was stored before.
-/

namespace ShaderLayout

/-- Work on a buffer. It ends with a result or an error and with a buffer, unless it faults. -/
abbrev BufferM := ExceptT LayoutError (StateT (List UInt8) Option)

namespace BufferM

/-- What work comes to on a buffer; nothing after a fault. -/
def on (work : BufferM α) (bytes : List UInt8) : Option (Except LayoutError α × List UInt8) :=
  work.run.run bytes

def fault : BufferM α :=
  ExceptT.mk (StateT.mk fun _ => none)

def loadWord (offset : Nat) : BufferM UInt32 := do
  let bytes ← get
  if offset + 4 ≤ bytes.length then return wordAt bytes offset else fault

def storeWord (offset : Nat) (word : UInt32) : BufferM Unit := do
  let bytes ← get
  if offset + 4 ≤ bytes.length then set (setWord bytes offset word) else fault

/-- Does work on the bytes from `start` on and leaves those in front as they are. -/
def behind (start : Nat) (work : BufferM α) : BufferM α :=
  ExceptT.mk (StateT.mk fun bytes =>
    if start ≤ bytes.length then
      (work.on (bytes.drop start)).map fun (result, after) => (result, bytes.take start ++ after)
    else none)

def storeWords : List Nat → List UInt32 → BufferM Unit
  | offset :: offsets, word :: words => do
    storeWord offset word
    storeWords offsets words
  | _, _ => pure ()

@[simp] theorem on_pure (result : α) (bytes : List UInt8) :
    (pure result : BufferM α).on bytes = some (.ok result, bytes) := rfl

theorem on_bind_of_ok {work : BufferM α} {next : α → BufferM β} {bytes after : List UInt8}
    {result : α} (h : work.on bytes = some (.ok result, after)) :
    (work >>= next).on bytes = (next result).on after := by
  change (work.on bytes).bind _ = _
  rw [h]
  rfl

theorem on_bind_of_error {work : BufferM α} {next : α → BufferM β} {bytes after : List UInt8}
    {error : LayoutError} (h : work.on bytes = some (.error error, after)) :
    (work >>= next).on bytes = some (.error error, after) := by
  change (work.on bytes).bind _ = _
  rw [h]
  rfl

theorem on_loadWord {bytes : List UInt8} {offset : Nat} (h : offset + 4 ≤ bytes.length) :
    (loadWord offset).on bytes = some (.ok (wordAt bytes offset), bytes) := by
  change (if offset + 4 ≤ bytes.length then pure (wordAt bytes offset) else fault : BufferM _).on
    bytes = _
  rw [if_pos h, on_pure]

theorem on_storeWord {bytes : List UInt8} {offset : Nat} {word : UInt32}
    (h : offset + 4 ≤ bytes.length) :
    (storeWord offset word).on bytes = some (.ok (), setWord bytes offset word) := by
  change (if offset + 4 ≤ bytes.length then set (setWord bytes offset word) else fault :
    BufferM _).on bytes = _
  rw [if_pos h]
  rfl

end BufferM

/-- A call that writes a field. -/
structure FieldWrite where
  name : String
  value : FieldValue
  deriving DecidableEq, Repr

namespace BlockLayout

/-- The field of that name in the buffer at hand. -/
def seek (layout : BlockLayout) (name : String) : BufferM FieldLayout := do
  match layout.locate (← get).length name with
  | .ok field => return field
  | .error error => throw error

def loadField (layout : BlockLayout) (name : String) : BufferM FieldValue := do
  let field ← layout.seek name
  let words ← field.wordOffsets.mapM BufferM.loadWord
  match FieldValue.ofWords? field.type words with
  | some value => return value
  | none => BufferM.fault

def storeField (layout : BlockLayout) (write : FieldWrite) : BufferM Unit := do
  let field ← layout.seek write.name
  if write.value.type ≠ field.type then
    throw (.typeMismatch layout.name write.name field.type write.value.type)
  BufferM.storeWords field.wordOffsets write.value.words

/-- Makes calls one after the other, each on the buffer that the one before it left, and tells what
each of them answered. -/
def storeFields (layout : BlockLayout) :
    List FieldWrite → List UInt8 →
      Option (List (FieldWrite × Except LayoutError Unit) × List UInt8)
  | [], bytes => some ([], bytes)
  | write :: writes, bytes => do
    let (answer, bytes) ← (layout.storeField write).on bytes
    let (answers, bytes) ← layout.storeFields writes bytes
    return ((write, answer) :: answers, bytes)

theorem on_seek (layout : BlockLayout) (name : String) (bytes : List UInt8) :
    (layout.seek name).on bytes = some (layout.locate bytes.length name, bytes) := by
  change (match layout.locate bytes.length name with
    | .ok field => pure field
    | .error error => throw error : BufferM _).on bytes = _
  cases layout.locate bytes.length name <;> rfl

end BlockLayout

end ShaderLayout
