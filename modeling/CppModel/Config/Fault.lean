import CppModel.Decimal.Plain
import CppModel.Text.Quoted

/-!
# Faults of a configuration

A configuration is read from a table of values.  A fault says where the table
departs from the form that was expected; the first fault met is the one that is
reported.
-/

namespace CppModel.Config

/-- The kind of value that stands where another kind was expected. -/
inductive Found
  | boolean (value : Bool)
  | integer (value : Int)
  | float (value : Float)
  | string (text : String)
  | list
  | table

/-- What was expected in a place. -/
inductive Expected
  | text
  | flag
  | size
  | list
  /-- The fields of a record with the given name. -/
  | record (name : String)

/-- The first departure of a table from the expected form. -/
inductive Fault
  /-- A key that is no field, with the fields there are. -/
  | unknownField (key : String) (fields : List String)
  | missingField (field : String)
  | wrongType (found : Found) (expected : Expected)
  | negativeSize (value : Int)
  /-- A list that ends before the field at the given position. -/
  | tooShort (position : Nat) (record : String) (fieldCount : Nat)
  /-- A list with more values than the record has fields. -/
  | tooLong (length : Nat)
  /-- A literal that stands for no number. -/
  | noNumber

/-- A name between backquotes. -/
def backquoted (name : String) : String :=
  "`" ++ name ++ "`"

namespace Found

/-- What was found, in words. -/
def message : Found → String
  | boolean value => "boolean " ++ backquoted (if value then "true" else "false")
  | integer value => "integer " ++ backquoted (toString value)
  | float value => "floating point " ++ backquoted (Decimal.plain value)
  | string text => "string " ++ Text.quoted text
  | list => "sequence"
  | table => "map"

end Found

namespace Expected

/-- What was expected, in words. -/
def message : Expected → String
  | text => "a string"
  | flag => "a boolean"
  | size => "usize"
  | list => "a sequence"
  | record name => "struct " ++ name

end Expected

namespace Fault

/-- The fields that a key could have been: two are named with `or`, more of
them in a list. -/
def alternatives : List String → String
  | [first, second] => backquoted first ++ " or " ++ backquoted second
  | fields => "one of " ++ ", ".intercalate (fields.map backquoted)

/-- The fault in words. -/
def message : Fault → String
  | unknownField key fields =>
      "unknown field " ++ backquoted key ++ ", expected " ++ alternatives fields
  | missingField field => "missing field " ++ backquoted field
  | wrongType found expected =>
      "invalid type: " ++ found.message ++ ", expected " ++ expected.message
  | negativeSize value =>
      "invalid value: " ++ (Found.integer value).message ++ ", expected " ++
        Expected.size.message
  | tooShort position record fieldCount =>
      "invalid length " ++ toString position ++ ", expected " ++
        (Expected.record record).message ++ " with " ++ toString fieldCount ++ " elements"
  | tooLong length =>
      "invalid length " ++ toString length ++ ", expected fewer elements in array"
  | noNumber => "number overflowed"

end Fault

end CppModel.Config
