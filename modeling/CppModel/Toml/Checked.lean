import CppModel.Toml.Value

/-!
# Checked documents

A document may hold literals without a value: integers beyond 64 bits or without
digits, and floating point numbers beyond the largest one.  They do no harm where
they are not read, so that a document is put together with them in place.  A
checked document has none.

A date-time that is read as a table stands under a key of its own.  Checking
turns such a table back into the date-time, and refuses it if the text under the
key is none.
-/

namespace CppModel.Toml

namespace Value

/-- The key under which a date-time stands when it is read as a table. -/
def dateTimeKey : String := "$__toml_private_datetime"

/-! ## Date-times as tables -/

mutual

/-- The value with every date-time as a table of one entry. -/
def boxed : Value → Value
  | .dateTime moment => .table [(dateTimeKey, .string moment.text)]
  | .list items => .list (boxedItems items)
  | .table entries => .table (boxedEntries entries)
  | value => value

/-- The items of a list with every date-time as a table. -/
def boxedItems : List Value → List Value
  | [] => []
  | item :: rest => boxed item :: boxedItems rest

/-- The entries of a table with every date-time as a table. -/
def boxedEntries : List (String × Value) → List (String × Value)
  | [] => []
  | (key, value) :: rest => (key, boxed value) :: boxedEntries rest

end

/-- What stands under the key of date-times, if no other key of the table comes
before that one in ascending order. -/
def box? (entries : Table) : Option Value :=
  if entries.any fun entry => entry.1 < dateTimeKey then none
  else entries.lookup dateTimeKey

/-- The date-time that the text under the key of date-times stands for. -/
def unboxed? : Value → Option Value
  | .string text => (DateTime.ofChars? text.toList).map .dateTime
  | _ => none

/-! ## Checking -/

/-- The least integer beyond the signed representation in 64 bits. -/
def wordLimit : Int := 0x8000000000000000

/-- Whether an integer has a signed representation in 64 bits. -/
def isWord (number : Int) : Bool :=
  -wordLimit ≤ number && number < wordLimit

mutual

/-- The value with every literal checked, and with every date-time unboxed.
What stands beside the key of a date-time is not looked at. -/
def checked? : Value → Option Value
  | .integer number => if isWord number then some (.integer number) else none
  | .hugeFloat => none
  | .brokenInteger => none
  | .list items => (checkedItems? items).map .list
  | .table entries =>
      match box? entries with
      | some content => content.unboxed?
      | none => (checkedEntries? entries).map .table
  | value => some value

/-- The items of a list, each of them checked. -/
def checkedItems? : List Value → Option (List Value)
  | [] => some []
  | item :: rest => do
      let value ← checked? item
      let values ← checkedItems? rest
      some (value :: values)

/-- The entries of a table, each of them checked. -/
def checkedEntries? : List (String × Value) → Option (List (String × Value))
  | [] => some []
  | (key, item) :: rest => do
      let value ← checked? item
      let values ← checkedEntries? rest
      some ((key, value) :: values)

end

/-- A table that holds a date-time under its key and nothing else is that
date-time. -/
example :
    (checked? (.table [(dateTimeKey, .string "07:32")])).isSome = true ∧
      (checked? (.table [(dateTimeKey, .string "noon")])).isNone = true ∧
      (checked? (.table [(dateTimeKey, .string "noon"), ("!", .boolean true)])).isSome = true := by
  decide +kernel

end Value

end CppModel.Toml
