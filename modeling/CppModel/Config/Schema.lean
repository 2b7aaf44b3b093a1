import CppModel.Config.Fault
import CppModel.Toml.Value

/-!
# Schemas

A schema lists the fields of a record: their names in order, which of them have
to be there, and how each one is read.  A record is read from a table, whose
keys are visited in ascending order, or from a list that holds the fields in
the order of the schema.  Whether such a list may go on behind the last field is
up to the document that it stands in.

Every field is read into a record that begins with defaults, so that a field
that is left out needs no further care; only the presence of required fields
is checked at the end.  The first fault is the one that is reported.
-/

namespace CppModel.Config

open Toml (Value Table)

/-- The kind of a value, for a fault.  A date-time counts as its text, and a
literal that stands for no number has no kind. -/
def Found.ofValue? : Value → Option Found
  | .string text => some (.string text)
  | .integer number => some (.integer number)
  | .float number => some (.float number)
  | .hugeFloat => none
  | .brokenInteger => none
  | .boolean flag => some (.boolean flag)
  | .dateTime moment => some (.string moment.text)
  | .list _ => some .list
  | .table _ => some .table

/-- The fault of a value in a place where something else was expected. -/
def mismatch (value : Value) (expected : Expected) : Fault :=
  match Found.ofValue? value with
  | some found => .wrongType found expected
  | none => .noNumber

/-! ## Values of fields -/

/-- A text. -/
def readText : Value → Except Fault String
  | .string text => .ok text
  | .dateTime moment => .ok moment.text
  | value => .error (mismatch value .text)

/-- A flag. -/
def readFlag : Value → Except Fault Bool
  | .boolean value => .ok value
  | value => .error (mismatch value .flag)

/-- The least integer that is no size. -/
def sizeLimit : Int := 0x10000000000000000

/-- A size, which has 64 bits. -/
def readSize : Value → Except Fault Nat
  | .integer number =>
      if number < 0 then .error (.negativeSize number)
      else if number < sizeLimit then .ok number.toNat
      else .error (mismatch (.integer number) .size)
  | value => .error (mismatch value .size)

/-- The items of a list, read front to back. -/
def readItems {Item : Type} (read : Value → Except Fault Item) :
    List Value → Except Fault (List Item)
  | [] => .ok []
  | value :: rest => do
      let item ← read value
      let items ← readItems read rest
      pure (item :: items)

/-- A list of items of one kind. -/
def readList {Item : Type} (read : Value → Except Fault Item) : Value → Except Fault (List Item)
  | .list values => readItems read values
  | value => .error (mismatch value .list)

/-! ## Records -/

/-- Whether a field has to be there. -/
inductive Presence
  | required
  /-- The field may be missing from a table, but not from a list. -/
  | optional
  /-- The field may be missing from a table and from the end of a list. -/
  | defaulted
  deriving DecidableEq, Repr

/-- A field of a record. -/
structure Field (Record : Type) where
  name : String
  presence : Presence
  /-- Read the field and put it into a record. -/
  read : Value → Record → Except Fault Record

namespace Field

variable {Record Content : Type}

/-- A field whose value is read on its own and then put into the record. -/
def ofReader (presence : Presence) (name : String) (read : Value → Except Fault Content)
    (put : Content → Record → Record) : Field Record :=
  ⟨name, presence, fun value record => (read value).map fun content => put content record⟩

/-- A field that has to be there. -/
def required (name : String) (read : Value → Except Fault Content)
    (put : Content → Record → Record) : Field Record :=
  ofReader .required name read put

/-- A field without which the record has no such value. -/
def optional (name : String) (read : Value → Except Fault Content)
    (put : Option Content → Record → Record) : Field Record :=
  ofReader .optional name read fun content => put (some content)

/-- A field with a default. -/
def defaulted (name : String) (read : Value → Except Fault Content)
    (put : Content → Record → Record) : Field Record :=
  ofReader .defaulted name read put

end Field

/-- What becomes of the values that a list has behind the last field. -/
inductive Surplus
  /-- They are not read. -/
  | ignored
  /-- The list is too long. -/
  | refused
  deriving DecidableEq, Repr

/-- The form of a record. -/
structure Schema (Record : Type) where
  /-- The name of the record in messages. -/
  name : String
  /-- The record whose fields all have their defaults. -/
  initial : Record
  fields : List (Field Record)

namespace Schema

variable {Record : Type}

/-- The names of the fields, in order. -/
def fieldNames (schema : Schema Record) : List String :=
  schema.fields.map (·.name)

/-- The field with a given name. -/
def field? (schema : Schema Record) (name : String) : Option (Field Record) :=
  schema.fields.find? (·.name == name)

/-- The entries of a table in ascending order of their keys. -/
def sortEntries (entries : Table) : Table :=
  entries.mergeSort fun first second => !(second.1 < first.1)

/-- Read entries into a record, one after another. -/
def readEntries (schema : Schema Record) : Table → Record → Except Fault Record
  | [], record => .ok record
  | (key, value) :: rest, record =>
      match schema.field? key with
      | none => .error (.unknownField key schema.fieldNames)
      | some field => do
          let next ← field.read value record
          schema.readEntries rest next

/-- The first required field that no entry gives. -/
def missing? (schema : Schema Record) (entries : Table) : Option String :=
  (schema.fields.find? fun field =>
    field.presence == .required && !(entries.any (·.1 == field.name))).map (·.name)

/-- Read a record from the entries of a table. -/
def readTable (schema : Schema Record) (entries : Table) : Except Fault Record := do
  let record ← schema.readEntries (sortEntries entries) schema.initial
  match schema.missing? entries with
  | some name => throw (.missingField name)
  | none => pure record

/-- Read values into the fields in order, from the field at `position` on.  The
values that are left over are returned. -/
def readPositions (schema : Schema Record) :
    Nat → List (Field Record) → List Value → Record → Except Fault (Record × List Value)
  | _, [], values, record => .ok (record, values)
  | position, field :: fields, [], record =>
      if field.presence = .defaulted then schema.readPositions (position + 1) fields [] record
      else .error (.tooShort position schema.name schema.fields.length)
  | position, field :: fields, value :: values, record => do
      let next ← field.read value record
      schema.readPositions (position + 1) fields values next

/-- Read a record from a list of its fields. -/
def readFields (schema : Schema Record) (surplus : Surplus) (values : List Value) :
    Except Fault Record := do
  let (record, rest) ← schema.readPositions 0 schema.fields values schema.initial
  if rest.isEmpty || surplus == .ignored then pure record else throw (.tooLong values.length)

/-- Read a record from a table or from a list of its fields. -/
def read (schema : Schema Record) (surplus : Surplus) : Value → Except Fault Record
  | .table entries => schema.readTable entries
  | .list values => schema.readFields surplus values
  | value => .error (mismatch value (.record schema.name))

end Schema

end CppModel.Config
