import CppModel.Element.Method

/-!
# Enumerations

The items of an enumeration are numbered from zero.  Behind them stands a
counter whose value is their number.  Every enumerator carries a common mark in
front of its name.  There is nothing about an enumeration that could be
refused.
-/

namespace CppModel

/-- What stands in front of an enumerator if nothing else is asked for. -/
def Enumeration.defaultMark : String := "e"

/-- An enumeration. -/
structure Enumeration where
  name : String
  link : Scope.Link := none
  /-- What stands in front of the name of every enumerator. -/
  mark : String := Enumeration.defaultMark
  /-- Whether the enumerators are scoped by the enumeration. -/
  isScoped : Bool := false
  items : List String := []
  documentation : Option String := none

namespace Enumeration

open Procedure

/-- An enumeration without items. -/
def ofName (name : String) : Enumeration := { name := name }

/-- The enumeration with more items. -/
def addItems (enumeration : Enumeration) (items : List String) : Enumeration :=
  { enumeration with items := enumeration.items ++ items }

/-- The enumeration with one more item. -/
def addItem (enumeration : Enumeration) (item : String) : Enumeration :=
  enumeration.addItems [item]

/-- The name of the enumeration with every scope around it. -/
def fullName (context : Context) (enumeration : Enumeration) : String :=
  context.scopes.qualifiedName enumeration.link enumeration.name scopeSeparator

/-- The first line of the enumeration. -/
def header (enumeration : Enumeration) : String :=
  (if enumeration.isScoped then "enum class " else "enum ") ++ enumeration.name

/-- The lines of items, where the first of them has the given value. -/
def itemLines (mark : String) : Nat → List String → List String
  | _, [] => []
  | value, item :: rest =>
      (mark ++ item ++ " = " ++ toString value ++ ",") :: itemLines mark (value + 1) rest

/-- The line of the counter. -/
def counterLine (enumeration : Enumeration) : String :=
  enumeration.mark ++ enumeration.name ++ "Count = " ++ toString enumeration.items.length

/-- The lines between the braces. -/
def bodyLines (enumeration : Enumeration) : List String :=
  itemLines enumeration.mark 0 enumeration.items ++ [enumeration.counterLine]

/-- The whole enumeration. -/
def script (enumeration : Enumeration) : Script :=
  Script.ofDoc enumeration.documentation ++
    [.block enumeration.header ";" (Script.ofLines enumeration.bodyLines)]

/-- The whole enumeration, which never fails. -/
def render (enumeration : Enumeration) : Rendering := .ok enumeration.script

/-- What goes into the header. -/
def declaration (enumeration : Enumeration) : Rendering := enumeration.render

/-- An enumeration has nothing to define. -/
def definition (_ : Enumeration) : Rendering := .ok []

/-- Write the whole enumeration. -/
def writeOwn (enumeration : Enumeration) : Procedure Unit := do
  document enumeration.documentation
  block enumeration.header ";" (Script.ofLines enumeration.bodyLines)

/-- The items keep their number. -/
theorem length_itemLines (mark : String) (value : Nat) (items : List String) :
    (itemLines mark value items).length = items.length := by
  induction items generalizing value with
  | nil => rfl
  | cons item rest inductionHypothesis => simp [itemLines, inductionHypothesis]

/-- The items are numbered in order, from the given value on. -/
theorem getElem?_itemLines (mark : String) (value position : Nat) (items : List String) :
    (itemLines mark value items)[position]? =
      items[position]?.map fun item =>
        mark ++ item ++ " = " ++ toString (value + position) ++ "," := by
  induction items generalizing value position with
  | nil => simp [itemLines]
  | cons item rest inductionHypothesis =>
      cases position with
      | zero => simp [itemLines]
      | succ position => simp [itemLines, inductionHypothesis, Nat.add_assoc, Nat.add_comm 1]

end Enumeration

end CppModel
