import ShaderLayout.Argument.Item

/-!
Argument tables from the fields of a structure. A field is marked with a class
and an index, and may be marked with stages and a count; fields without a class
are no arguments. Marks whose value has another form are passed over.
-/

namespace ShaderLayout

/-- The value of a mark: `= "text"`, `= number`, or a list in parentheses. -/
inductive MarkValue where
  | text (value : String)
  | number (value : UInt32)
  | list
  deriving DecidableEq, Repr

inductive FieldMark where
  | bind (bindingClass : BindingClass) (index : BoundIndex)
  | stage (value : MarkValue)
  | count (value : MarkValue)
  deriving DecidableEq, Repr

structure MarkedField where
  name : String
  marks : List FieldMark
  deriving DecidableEq, Repr

/-- Why no table can be made. -/
inductive MarkFault where
  | unknownStage (name : String)
  | secondClass (field : String)
  | notCount (field : String)
  deriving DecidableEq, Repr

namespace Stages

def ofName? (name : String) : Option Stages :=
  match name with
  | "VERTEX" => some vertex
  | "FRAGMENT" => some fragment
  | "COMPUTE" => some compute
  | _ => none

/-- Text without blanks at its ends. -/
def trimmed (text : List Char) : List Char :=
  ((text.dropWhile Char.isWhitespace).reverse.dropWhile Char.isWhitespace).reverse

/-- The stages that a text lists, with bars between them. -/
def ofText (text : String) : Except MarkFault Stages :=
  (text.toList.splitOn '|').foldlM (fun stages part =>
    let name := String.ofList (trimmed part)
    match ofName? name with
    | some stage => .ok (stages.union stage)
    | none => .error (.unknownStage name)) ⟨0⟩

end Stages

namespace MarkedField

/-- The classes and indices that a field is marked with. -/
def bindings (field : MarkedField) : List (BindingClass × BoundIndex) :=
  field.marks.filterMap fun mark =>
    match mark with
    | .bind bindingClass index => some (bindingClass, index)
    | _ => none

/-- The class and index of a field, if it is an argument. -/
def binding? (field : MarkedField) : Except MarkFault (Option (BindingClass × BoundIndex)) :=
  match field.bindings with
  | [] => .ok none
  | [binding] => .ok (some binding)
  | _ => .error (.secondClass field.name)

/-- The first list of stages that is a text. -/
def stageText? (field : MarkedField) : Option String :=
  field.marks.findSome? fun mark =>
    match mark with
    | .stage (.text value) => some value
    | _ => none

/-- The stages of a field; without a mark, both stages of drawing. -/
def stages (field : MarkedField) : Except MarkFault Stages :=
  match field.stageText? with
  | some text => Stages.ofText text
  | none => .ok (Stages.vertex.union .fragment)

/-- The first count that is not a list. -/
def countValue? (field : MarkedField) : Option MarkValue :=
  field.marks.findSome? fun mark =>
    match mark with
    | .count .list => none
    | .count value => some value
    | _ => none

/-- The count of a field; without a mark, a single resource. -/
def count (field : MarkedField) : Except MarkFault UInt32 :=
  match field.countValue? with
  | some (.number value) => .ok value
  | some _ => .error (.notCount field.name)
  | none => .ok 1

/-- The name without the underscores at its ends, which keep field names clear of keywords. -/
def argumentName (field : MarkedField) : String :=
  String.ofList
    ((field.name.toList.dropWhile (· == '_')).reverse.dropWhile (· == '_')).reverse

/-- The item that a field stands for, if it is an argument. -/
def item? (field : MarkedField) : Except MarkFault (Option ArgumentItem) := do
  match ← field.binding? with
  | none => return none
  | some (bindingClass, index) =>
    return some ⟨field.argumentName, bindingClass, index, ← field.stages, ← field.count⟩

end MarkedField

/-- The argument table of a structure, in the order of its fields. -/
def deriveArguments (fields : List MarkedField) : Except MarkFault (List ArgumentItem) := do
  return (← fields.mapM MarkedField.item?).filterMap id

end ShaderLayout
