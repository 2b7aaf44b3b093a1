import CppModel.Proofs.Braces.Scripts
import CppModel.Proofs.Material.Classes

/-!
# Units with balanced braces

The words and signs of declarations have no braces, and the braces that an element adds on its
own stand in pairs: around a body or the members of a class, around the items of an enumeration,
and around those of an array.  So the header and the source of a unit are balanced if all that
its elements are made from is: the strings, the bodies, and the names of the scopes around them.
This holds whenever the writing succeeds, for every style and level.
-/

namespace CppModel

open Scope Procedure
open Script (KeepsBalance)

/-- Every text of the list is balanced. -/
abbrev AllBalanced (texts : List String) : Prop :=
  ∀ text ∈ texts, IsBalanced text

/-! ## Balanced material -/

theorem bracesOf_eq_nil_of_isPlain {text : String} (plain : IsPlain text) :
    bracesOf text.toList = [] := by
  refine List.filterMap_eq_nil_iff.mpr fun character listed => ?_
  have notBrace : ∀ step, Text.isPlain (braceOf step) = false := by
    rintro (_ | _) <;> rfl
  exact brace?_eq_none notBrace (plain character listed)

theorem isCompositional_isBalanced : IsCompositional IsBalanced where
  plain plain := isBalanced_of_bracesOf_eq_nil (bracesOf_eq_nil_of_isPlain plain)
  append first second := first.append second
  inBraces balanced := balanced.inBraces
  behind {front rest} plain balanced := by
    have sameBraces : bracesOf (front ++ rest).toList = bracesOf rest.toList := by
      rw [String.toList_append, bracesOf_append, bracesOf_eq_nil_of_isPlain plain, List.nil_append]
    rw [isBalanced_iff_isNested] at *
    exact (IsNested.congr sameBraces).mp balanced

/-- Texts, documentation and bodies that are balanced one by one. -/
def Material.balanced : Material where
  text := IsBalanced
  documentation := IsBalanced
  body := KeepsBalance

theorem Script.MadeOf.keepsBalance {depth : Nat} {script : Script}
    (made : script.MadeOf .balanced depth) : script.KeepsBalance := by
  induction made with
  | nothing => exact keepsBalance_nil
  | append _ _ first second => exact first.append second
  | doc documented => exact keepsBalance_doc documented
  | line text _ => exact keepsBalance_line text
  | blank => exact keepsBalance_blank
  | label text => exact keepsBalance_label text
  | block header closing _ inside => exact keepsBalance_block header closing inside
  | fork _ inside => exact inside.fork
  | body content => exact content

namespace Element

/-- The strings and the body of the element are balanced, and so are the names of the scopes
around it. -/
structure HasBalancedParts (context : Context) (element : Element) : Prop where
  strings : AllBalanced (element.strings context)
  body : ∀ content ∈ element.body, content.KeepsBalance
  around : AllBalanced (context.scopes.namesAround (element.link context.scopes))

theorem HasBalancedParts.madeOf {context : Context} {element : Element}
    (balanced : element.HasBalancedParts context) : element.MadeOf .balanced context where
  strings text listed := balanced.strings text (element.strings_bare_subset context listed)
  documentation given documented :=
    balanced.strings given (element.documentation_mem_strings context documented)
  body := balanced.body
  around := balanced.around

end Element

/-- What a unit writes on either side is balanced, if the strings, the bodies and the names
of scopes that its elements are made from are; and a body of lines is balanced when its lines
are in a row. -/
theorem generated_braces_are_balanced {context : Context} {unit : TranslationUnit}
    (balanced : ∀ element ∈ unit.elements, element.HasBalancedParts context) :
    (∀ (side : Side) (sink after : Sink),
      (unit.write context side).runOn sink = (after, .ok ()) →
        ∃ part, after.text = sink.text ++ part ∧ IsBalanced part) ∧
      ∀ lines, (Script.ofLines lines).KeepsBalance ↔ IsBalanced (String.join lines) := by
  refine ⟨fun side sink after written => ?_, Script.keepsBalance_ofLines_iff⟩
  obtain ⟨script, rendered, rfl⟩ :=
    ((unit.carriesOut_write context side).runOn_eq_ok_iff sink after).mp written
  have made : (unit.rendering context side).MadeOf .balanced 0 :=
    TranslationUnit.madeOf_rendering isCompositional_isBalanced
      (fun element listed => (balanced element listed).madeOf) side
  exact ⟨script.textAt sink, script.text_run sink, (made script rendered).keepsBalance sink⟩

namespace Grid

/-- A class with an array of items in braces, and with a method whose lines are balanced in a
row, though not one by one. -/
def grid : Class :=
  ⟨{ scope := ⟨0⟩
     name := "Grid"
     functions := [.method { name := "clear", link := some ⟨0⟩, returnType := some "void",
                             body := some (.ofLines ["for (auto& c : cells) \x7b", "c = \x7b\x7d;",
                               "\x7d"]) }]
     arrays := [{ name := "cells", type := "Cell", link := some ⟨0⟩, isStatic := true,
                  items := ["\x7b1\x7d", "\x7b2\x7d"] }] }, []⟩

/-- A unit of the class alone. -/
def unit : TranslationUnit := ⟨[.classType grid]⟩

/-- The scopes of the class. -/
def context : Context := .ofScopes ⟨#[some ⟨"Grid", none, []⟩]⟩

/-- What a default sink holds when the source of the unit has been written. -/
def source : String :=
  "Cell Grid::cells[] = \x7b\x7b1\x7d, \x7b2\x7d\x7d;\n\nvoid Grid::clear()\n\x7b\n" ++
    "    for (auto& c : cells) \x7b\n    c = \x7b\x7d;\n    \x7d\n\x7d\n"

end Grid

open Grid in
/-- The source of the class is balanced. -/
theorem braces_of_grid :
    (∀ element ∈ unit.elements, element.HasBalancedParts context) ∧
      (unit.write context .source).runOn default = (⟨.cpp, 0, source⟩, .ok ()) ∧
      ∃ part, source = "" ++ part ∧ IsBalanced part := by
  have parts : ∀ element ∈ unit.elements, element.HasBalancedParts context := by
    have ofClass : unit.elements = grid.elements := rfl
    rw [ofClass, Class.forall_mem_elements_iff]
    refine ⟨⟨by decide, by rintro _ ⟨⟩, by decide⟩, ?members, List.forall_mem_nil _⟩
    case members =>
      have members : grid.parts.elements = [.array _, .member _] := rfl
      rw [members, List.forall_mem_cons, List.forall_mem_singleton]
      refine ⟨⟨by decide, by rintro _ ⟨⟩, by decide⟩, by decide, ?body, by decide⟩
      rintro _ ⟨⟩
      exact (Script.keepsBalance_ofLines_iff _).mpr (by decide +kernel)
  have written : (unit.write context .source).runOn default = (⟨.cpp, 0, source⟩, .ok ()) := rfl
  exact ⟨parts, written, (generated_braces_are_balanced parts).1 .source _ _ written⟩

end CppModel
