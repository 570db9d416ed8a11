import ShaderLayout.Toml.Value

/-!
Decoding of TOML values. A record is written as a table or, just as well, as an
array of its fields in order. Keys that a record does not know are ignored. A
field left out takes its default, if it has one. A date counts as a record
without any known key.
-/

namespace ShaderLayout.Toml

/-- The fields of a record, by key or by place. -/
inductive Record where
  | keyed (entries : Entries)
  | listed (items : List Value)

namespace Value

def asString : Value → Except Fault String
  | .string text => .ok text
  | _ => .error (.unexpected "a string")

def asBoolean : Value → Except Fault Bool
  | .boolean value => .ok value
  | _ => .error (.unexpected "a boolean")

/-- A natural number below a bound. -/
def asNatBelow (bound : Nat) : Value → Except Fault Nat
  | .integer value =>
    if 0 ≤ value ∧ value < bound then .ok value.toNat else .error (.unexpected "a smaller number")
  | _ => .error (.unexpected "an integer")

/-- The items of an array, each decoded. -/
def asItems (decode : Value → Except Fault α) : Value → Except Fault (List α)
  | .array _ items => items.mapM decode
  | _ => .error (.unexpected "an array")

def asRecord : Value → Except Fault Record
  | .table _ entries => .ok (.keyed entries)
  | .array _ items => .ok (.listed items)
  | .datetime => .ok (.keyed [])
  | _ => .error (.unexpected "a table")

/-- One of several named choices: its name, or a table whose only key it is, with nothing in
it. -/
def asChoice (ofName? : String → Option α) (value : Value) : Except Fault α :=
  let name := match value with
    | .string name => some name
    | .table _ [(name, .table _ [])] | .table _ [(name, .array _ [])] => some name
    | _ => none
  match name.bind ofName? with
  | some choice => .ok choice
  | none => .error (.unexpected "one of the known names")

end Value

namespace Record

/-- The field with that place and key. -/
def field? (record : Record) (place : Nat) (key : String) : Option Value :=
  match record with
  | .keyed entries => entries.get? key
  | .listed items => items[place]?

/-- A field that has to be there. -/
def required (record : Record) (place : Nat) (key : String) (decode : Value → Except Fault α) :
    Except Fault α :=
  match record.field? place key with
  | some value => decode value
  | none => .error (.missingKey key)

/-- A field with a default. -/
def withDefault (record : Record) (place : Nat) (key : String) (default : α)
    (decode : Value → Except Fault α) : Except Fault α :=
  match record.field? place key with
  | some value => decode value
  | none => .ok default

/-- A field that a table may leave out, but an array may not. -/
def optional (record : Record) (place : Nat) (key : String) (decode : Value → Except Fault α) :
    Except Fault (Option α) :=
  match record, record.field? place key with
  | _, some value => some <$> decode value
  | .keyed _, none => .ok none
  | .listed _, none => .error (.missingKey key)

end Record

end ShaderLayout.Toml
