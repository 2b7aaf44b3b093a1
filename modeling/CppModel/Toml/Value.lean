import CppModel.Toml.DateTime

/-!
# TOML values

The values that a TOML document is made of.  A table keeps its entries in the
order in which they were written, each key once.
-/

namespace CppModel.Toml

/-- A value of a TOML document. -/
inductive Value
  | string (text : String)
  | integer (value : Int)
  | float (value : Float)
  /-- A floating point literal beyond the largest number. -/
  | hugeFloat
  /-- An integer literal whose digits make up no number. -/
  | brokenInteger
  | boolean (value : Bool)
  | dateTime (moment : DateTime)
  | list (items : List Value)
  | table (entries : List (String × Value))

instance : Inhabited Value := ⟨.table []⟩

/-- The entries of a table. -/
abbrev Table := List (String × Value)

namespace Value

mutual

/-- The number of tables and lists around the innermost value, itself
included. -/
def depth : Value → Nat
  | .list items => depthOfItems items + 1
  | .table entries => depthOfEntries entries + 1
  | _ => 1

/-- The greatest depth in a list. -/
def depthOfItems : List Value → Nat
  | [] => 0
  | item :: rest => max (depth item) (depthOfItems rest)

/-- The greatest depth in the entries of a table. -/
def depthOfEntries : List (String × Value) → Nat
  | [] => 0
  | (_, value) :: rest => max (depth value) (depthOfEntries rest)

end

theorem depth_pos (value : Value) : 0 < value.depth := by
  cases value <;> simp [depth]

end Value

end CppModel.Toml
