import CppModel.Proofs.Material.Elements
import CppModel.Proofs.Source.Entries

/-!
# Classes and units that are made from given material

A class puts its members in a block, behind labels, and it does so at every depth.  So the
declaration and the definitions of a class are made from the material if the class and all
elements inside it are, and a unit on either side is if all its elements are.
-/

namespace CppModel

open Script (madeOf_documented_block madeOf_flatten)
open Rendering (gives_pure gives_bind forall_mem_of_all madeOf_paragraphs)

variable {material : Material} (compositional : IsCompositional material.text) {context : Context}
  {depth : Nat}

include compositional

namespace MemberFunction

variable {function : MemberFunction} (made : (Element.member function).MadeOf material context)

include made

theorem madeOf_declaration : (function.declaration context).MadeOf material depth := by
  cases function with
  | method content => exact Method.madeOf_declaration compositional made
  | constructor content => exact Constructor.madeOf_declaration compositional made

theorem madeOf_definition : (function.definition context).MadeOf material depth := by
  cases function with
  | method content => exact Method.madeOf_definition compositional made
  | constructor content => exact Constructor.madeOf_definition compositional made

end MemberFunction

theorem ClassParts.madeOf_header {parts : ClassParts}
    (strings : ∀ text ∈ parts.bare.strings, material.text text) : material.text parts.header := by
  obtain ⟨named, inherits, _⟩ := forall_mem_strings_iff.mp strings
  have start : material.text ((if parts.isStruct then "struct " else "class ") ++ parts.name) := by
    refine compositional.append (compositional.plain ?_) named
    split <;> decide
  rw [header]
  cases hasBase : parts.base with
  | none => exact start
  | some base =>
      have colon := compositional.append start
        (compositional.plain (by decide : IsPlain " : public "))
      exact compositional.append colon (inherits base hasBase)

namespace Class

variable {owner : Class}

theorem madeOf_body {publicPart privatePart : Script}
    (publics : publicPart.MadeOf material (depth + 1))
    (privates : privatePart.MadeOf material (depth + 1)) :
    (owner.body publicPart privatePart).MadeOf material (depth + 1) := by
  have label : ∀ word, IsPlain word → Script.MadeOf material (depth + 1) [.label word] :=
    fun word plain => .label (compositional.plain plain)
  rw [body]
  apply Script.MadeOf.append
  · split
    · split
      · exact (label "public" (by decide)).append publics
      · exact publics
    · exact .nothing
  · split
    · split
      · exact (label "private" (by decide)).append privates
      · exact privates
    · exact .nothing

/-- A class stands around its members. -/
theorem madeOf_declaration_of_members {parts : ClassParts} {nested : List Class}
    (made : (Element.classType ⟨parts, nested⟩).MadeOf material context)
    (publics : ∀ rendering ∈ publicDeclarations context ⟨parts, nested⟩,
      rendering.MadeOf material (depth + 1))
    (privates : ∀ rendering ∈ privateDeclarations context ⟨parts, nested⟩,
      rendering.MadeOf material (depth + 1)) :
    (declaration context ⟨parts, nested⟩).MadeOf material depth := by
  rw [declaration_eq]
  refine gives_bind fun _ _ => gives_bind fun publicPart publicsAll =>
    gives_bind fun privatePart privatesAll => gives_pure ?_
  have members :
      (body ⟨parts, nested⟩ publicPart.flatten privatePart.flatten).MadeOf material (depth + 1) :=
    madeOf_body compositional (madeOf_flatten (forall_mem_of_all publics publicsAll))
      (madeOf_flatten (forall_mem_of_all privates privatesAll))
  exact (madeOf_documented_block made.documentation
    (ClassParts.madeOf_header compositional made.strings) (compositional.plain (by decide))
    members).fork

theorem madeOf_declaration
    (made : ∀ element ∈ owner.elements, element.MadeOf material context) :
    (owner.declaration context).MadeOf material depth := by
  induction owner using induction_on generalizing depth with
  | step parts nested inductionHypothesis =>
      obtain ⟨own, members, inNested⟩ := forall_mem_elements_iff.mp made
      simp only [ClassParts.elements, List.forall_mem_append, List.forall_mem_map] at members
      obtain ⟨⟨⟨enumerations, data⟩, arrays⟩, functions⟩ := members
      apply madeOf_declaration_of_members compositional own
      · rw [publicDeclarations_eq]
        simp only [List.forall_mem_append, List.forall_mem_map]
        refine ⟨⟨?enumerations, ?classes⟩, ?functions⟩
        case enumerations =>
          exact fun content listed =>
            Enumeration.madeOf_render compositional (enumerations content listed)
        case classes =>
          exact fun inner listed => inductionHypothesis inner listed (inNested inner listed)
        case functions =>
          exact fun content listed =>
            MemberFunction.madeOf_declaration compositional (functions content listed)
      · rw [privateDeclarations, ClassParts.privateDeclarations]
        simp only [List.forall_mem_append, List.forall_mem_map]
        constructor
        · exact fun content listed =>
            Variable.madeOf_declaration compositional (data content listed)
        · exact fun content listed =>
            ArrayVariable.madeOf_declaration compositional (arrays content listed)

/-- A member that is defined outside of its class is made from the material there, too. -/
theorem madeOf_defined {parts : ClassParts}
    (made : ∀ member ∈ parts.elements, member.MadeOf material context) :
    ∀ element ∈ parts.defined, (element.definition context).MadeOf material depth := by
  simp only [ClassParts.elements, List.forall_mem_append, List.forall_mem_map] at made
  obtain ⟨⟨⟨_, data⟩, arrays⟩, functions⟩ := made
  intro element listed
  cases element, listed using ClassParts.mem_defined_cases with
  | data content isMember => exact Variable.madeOf_definition compositional (data content isMember)
  | array content isMember =>
      exact ArrayVariable.madeOf_definition compositional (arrays content isMember)
  | function content isMember =>
      exact MemberFunction.madeOf_definition compositional (functions content isMember)

theorem madeOf_definition
    (made : ∀ element ∈ owner.elements, element.MadeOf material context) :
    (owner.definition context).MadeOf material depth := by
  apply gives_bind
  intro _ _
  apply madeOf_paragraphs
  rw [definitions_eq_map_defined, List.forall_mem_map, defined, List.forall_mem_flatMap]
  intro inner inTree
  apply madeOf_defined compositional
  intro member isMember
  exact made member (List.mem_flatMap.mpr ⟨inner, inTree, List.mem_cons_of_mem _ isMember⟩)

theorem madeOf_render (made : ∀ element ∈ owner.elements, element.MadeOf material context) :
    (owner.render context).MadeOf material depth := by
  apply madeOf_paragraphs
  rw [List.forall_mem_cons, List.forall_mem_singleton]
  exact ⟨madeOf_declaration compositional made, madeOf_definition compositional made⟩

end Class

/-! ## Elements and units -/

/-- In each form, an element is made from the material if all that it contains is. -/
theorem Element.madeOf_rendering {item : Element}
    (made : ∀ element ∈ item.withMembers, element.MadeOf material context) (form : Form) :
    (item.rendering context form).MadeOf material depth := by
  cases item with
  | classType owner =>
      cases form with
      | declaration => exact Class.madeOf_declaration compositional made
      | definition => exact Class.madeOf_definition compositional made
      | own => exact Class.madeOf_render compositional made
  | function content =>
      have made := List.forall_mem_singleton.mp made
      cases form with
      | declaration => exact FreeFunction.madeOf_declaration compositional made
      | definition => exact FreeFunction.madeOf_definition compositional made
      | own => exact FreeFunction.madeOf_render compositional made
  | member content =>
      have made := List.forall_mem_singleton.mp made
      cases form with
      | declaration => exact MemberFunction.madeOf_declaration compositional made
      | definition => exact MemberFunction.madeOf_definition compositional made
      | own =>
          cases content with
          | method content => exact Method.madeOf_render compositional made
          | constructor content => exact Constructor.madeOf_render compositional made
  | data content =>
      have made := List.forall_mem_singleton.mp made
      cases form with
      | declaration => exact Variable.madeOf_declaration compositional made
      | definition => exact Variable.madeOf_definition compositional made
      | own => exact Variable.madeOf_render compositional made
  | array content =>
      have made := List.forall_mem_singleton.mp made
      cases form with
      | declaration => exact ArrayVariable.madeOf_declaration compositional made
      | definition => exact ArrayVariable.madeOf_definition compositional made
      | own => exact ArrayVariable.madeOf_render compositional made
  | enumeration content =>
      have made := List.forall_mem_singleton.mp made
      cases form with
      | declaration => exact Enumeration.madeOf_render compositional made
      | definition => exact gives_pure .nothing
      | own => exact Enumeration.madeOf_render compositional made

/-- On either side, a unit is made from the material if all its elements are. -/
theorem TranslationUnit.madeOf_rendering {unit : TranslationUnit}
    (made : ∀ element ∈ unit.elements, element.MadeOf material context) (side : Side) :
    (unit.rendering context side).MadeOf material depth := by
  rw [rendering_eq]
  apply gives_bind
  intro _ _
  apply madeOf_paragraphs
  rw [List.forall_mem_map]
  intro item inUnit
  apply Element.madeOf_rendering compositional
  intro element isPart
  exact made element (List.mem_flatMap.mpr ⟨item, inUnit, isPart⟩)

end CppModel
