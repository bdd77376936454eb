import TwoFactorLogin.Machine.Basic

/-!
# Contexts as records of fields

A context can be a record of named fields, or a plain mapping of which no snapshot shows anything.
The snapshot of a record holds the fields that are shown and whose names do not begin with an
underscore; of a run of bytes it holds the length alone. Both rules hold at every depth: the values
of fields can be lists, mappings and records in their turn.
-/

namespace TwoFactorLogin

/-- A named value of a record. One that is not `shown` is kept out of every written form. -/
structure ContextField (V : Type) where
  name : String
  value : V
  shown : Bool := true
  deriving Repr

/-- Whether a snapshot holds the field. -/
def ContextField.inSnapshot {V : Type} (f : ContextField V) : Bool :=
  f.shown && f.name.toList.head? != some '_'

/-- The value of a context's field. -/
inductive FieldValue where
  | text (s : String)
  | integer (i : Int)
  | flag (b : Bool)
  | bytes (content : List UInt8)
  /-- A point in time by its text, or none. -/
  | moment (time : Option String)
  /-- A member of an enumeration, by its name. -/
  | choice (name : String)
  | list (items : List FieldValue)
  | tuple (items : List FieldValue)
  | mapping (entries : List (String × FieldValue))
  /-- A record of its own, with the name of its class. -/
  | record (className : String) (fields : List (ContextField FieldValue))
  /-- A value that a field was not meant for; it is kept as it is. -/
  | other (v : Value)
  deriving Repr

namespace FieldValue

mutual

/-- What a snapshot holds of a field's value. -/
def snapshot : FieldValue → Value
  | text s => .string s
  | integer i => .int i
  | flag b => .bool b
  | bytes content => .string ("<bytes:" ++ toString content.length ++ ">")
  | moment time => .ofText? time
  | choice name => .string name
  | list items => .array (snapshots items)
  | tuple items => .array (snapshots items)
  | mapping entries => .object (entrySnapshots entries)
  | record _ fields => .object (fieldSnapshots fields)
  | other v => v

/-- What a snapshot holds of the items of a list. -/
def snapshots : List FieldValue → List Value
  | [] => []
  | v :: rest => snapshot v :: snapshots rest

/-- What a snapshot holds of the entries of a mapping. -/
def entrySnapshots : List (String × FieldValue) → List (String × Value)
  | [] => []
  | (name, v) :: rest => (name, snapshot v) :: entrySnapshots rest

/-- What a snapshot holds of the fields of a record. -/
def fieldSnapshots : List (ContextField FieldValue) → List (String × Value)
  | [] => []
  | ⟨name, v, shown⟩ :: rest =>
    if ContextField.inSnapshot ⟨name, v, shown⟩ then (name, snapshot v) :: fieldSnapshots rest
    else fieldSnapshots rest

end

/-- The value by which a field is compared; `none` for those that have no order. -/
def comparable? : FieldValue → Option Value
  | text s => some (.string s)
  | integer i => some (.int i)
  | flag b => some (.bool b)
  | other v => some v
  | _ => none

/-- Whether a field's value is at most another value; `none` if the two have no order. -/
def atMost? (f : FieldValue) (v : Value) : Option Bool := f.comparable?.bind fun w => w.atMost? v

/-- The word that messages use for the kind of a field's value. -/
def kindName : FieldValue → String
  | text _ => "str"
  | integer _ => "int"
  | flag _ => "bool"
  | bytes _ => "bytes"
  | moment (some _) => "datetime.datetime"
  | moment none => "NoneType"
  | choice _ => "EncryptionMode"
  | list _ => "list"
  | tuple _ => "tuple"
  | mapping _ => "dict"
  | record className _ => className
  | other v => v.kindName

end FieldValue

/-- A context of named fields, or a plain mapping. -/
inductive RecordContext where
  | mapping
  | record (fields : List (ContextField FieldValue))
  deriving Repr

namespace RecordContext

/-- What a snapshot holds of a context. -/
def snapshot : RecordContext → Value
  | mapping => .object []
  | record fields => .object (FieldValue.fieldSnapshots fields)

/-- The field with a given name. -/
def field? (name : String) : RecordContext → Option FieldValue
  | mapping => none
  | record fields => (fields.find? fun f => f.name = name).map ContextField.value

/-- The context with one field's value replaced. A plain mapping has no fields to replace. -/
def setField (name : String) (value : FieldValue) : RecordContext → Except Fault RecordContext
  | mapping => .error (.value (.notRecord (.object [])))
  | record fields =>
    .ok (.record (fields.map fun f => if f.name = name then { f with value } else f))

end RecordContext

/-- How a step changes a context. -/
inductive ContextUpdate where
  | keep
  | set (field : String) (value : FieldValue)
  | raise (fault : Fault)

/-- The context that an update makes. -/
def ContextUpdate.apply : ContextUpdate → RecordContext → Except Fault RecordContext
  | keep, c => .ok c
  | set field value, c => c.setField field value
  | raise fault, _ => .error fault

/-- One row of a table: in a state, an event leads to another state and changes the context. -/
structure TableRow where
  source : String
  event : String
  target : String
  update : ContextUpdate

/-- The machines that a table describes. Of two rows for one state and event the later one holds. -/
def tableLifecycle (initial : String) (rows : List TableRow) :
    Lifecycle String String String RecordContext where
  initial
  kind := id
  entry? state event :=
    (rows.reverse.find? fun r => r.source = state && r.event = event).map fun r =>
      ⟨r.target, fun _ c => r.update.apply c⟩
  stateName := id
  kindName := id
  snapshot := RecordContext.snapshot

/-- The invariant that a count in the context stays within a bound. -/
def countAtMost (name : String) (bound : Value) : Invariant String RecordContext where
  name
  holds _ c := match c.field? "count" with
    | none => .error (.value (.noField c.snapshot "count"))
    | some count => match count.atMost? bound with
      | some within => .ok within
      | none => .error (.value (.notOrdered "<=" count.kindName bound.kindName))

/-- The invariant that one state is never entered. -/
def neverIn (name state : String) : Invariant String RecordContext where
  name
  holds s _ := .ok (s != state)

end TwoFactorLogin
