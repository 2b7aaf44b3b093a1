import CppModel.Proofs.Documentation.Bare
import CppModel.Proofs.Material.Scripts
import CppModel.Proofs.Material.Texts
import CppModel.Proofs.Rendering.Forms

/-!
# Elements that are made from given material

An element is made from strings: its name and documentation, and what belongs to its kind.
What it writes is put together from them, from its body, from the names of the scopes around
it, and from the words and signs of its kind.  So a function, variable, array or enumeration
whose parts are of some material gives a script that is made from it in each of its forms.
-/

namespace CppModel

open Script (madeOf_documented_line madeOf_documented_block madeOf_ofLines)
open Rendering (gives_pure gives_error gives_bind)

/-! ## Strings -/

namespace FreeFunction

/-- The strings that the function is made from. -/
def strings (function : FreeFunction) : List String :=
  function.name :: (function.returnType.toList ++ function.arguments ++
    function.documentation.toList)

theorem forall_mem_strings_iff {function : FreeFunction} {holds : String → Prop} :
    (∀ text ∈ function.strings, holds text) ↔
      holds function.name ∧ (∀ type ∈ function.returnType, holds type) ∧
        (∀ argument ∈ function.arguments, holds argument) ∧
          ∀ given ∈ function.documentation, holds given := by
  simp only [strings, List.forall_mem_cons, List.forall_mem_append, Option.mem_toList,
    Option.mem_def, and_assoc]

end FreeFunction

namespace Method

/-- The strings that the method is made from. -/
def strings (method : Method) : List String :=
  method.name :: (method.returnType.toList ++ method.arguments ++ method.documentation.toList)

theorem forall_mem_strings_iff {method : Method} {holds : String → Prop} :
    (∀ text ∈ method.strings, holds text) ↔
      holds method.name ∧ (∀ type ∈ method.returnType, holds type) ∧
        (∀ argument ∈ method.arguments, holds argument) ∧
          ∀ given ∈ method.documentation, holds given := by
  simp only [strings, List.forall_mem_cons, List.forall_mem_append, Option.mem_toList,
    Option.mem_def, and_assoc]

end Method

/-- The strings that the constructor is made from, with the current initializers. -/
def Constructor.strings (context : Context) (constructor : Constructor) : List String :=
  constructor.toMethod.strings ++ constructor.initializers.resolve context

/-- The strings that the function is made from. -/
def MemberFunction.strings (context : Context) : MemberFunction → List String
  | .method content => content.strings
  | .constructor content => content.strings context

namespace Variable

/-- The strings that the variable is made from. -/
def strings (data : Variable) : List String :=
  data.name :: data.type :: (data.value.toList ++ data.documentation.toList)

theorem forall_mem_strings_iff {data : Variable} {holds : String → Prop} :
    (∀ text ∈ data.strings, holds text) ↔
      holds data.name ∧ holds data.type ∧ (∀ value ∈ data.value, holds value) ∧
        ∀ given ∈ data.documentation, holds given := by
  simp only [strings, List.forall_mem_cons, List.forall_mem_append, Option.mem_toList,
    Option.mem_def]

end Variable

namespace ArrayVariable

/-- The strings that the array is made from. -/
def strings (array : ArrayVariable) : List String :=
  array.name :: array.type :: (array.items ++ array.documentation.toList)

theorem forall_mem_strings_iff {array : ArrayVariable} {holds : String → Prop} :
    (∀ text ∈ array.strings, holds text) ↔
      holds array.name ∧ holds array.type ∧ (∀ item ∈ array.items, holds item) ∧
        ∀ given ∈ array.documentation, holds given := by
  simp only [strings, List.forall_mem_cons, List.forall_mem_append, Option.mem_toList,
    Option.mem_def]

end ArrayVariable

namespace Enumeration

/-- The strings that the enumeration is made from. -/
def strings (enumeration : Enumeration) : List String :=
  enumeration.name :: enumeration.mark ::
    (enumeration.items ++ enumeration.documentation.toList)

theorem forall_mem_strings_iff {enumeration : Enumeration} {holds : String → Prop} :
    (∀ text ∈ enumeration.strings, holds text) ↔
      holds enumeration.name ∧ holds enumeration.mark ∧ (∀ item ∈ enumeration.items, holds item) ∧
        ∀ given ∈ enumeration.documentation, holds given := by
  simp only [strings, List.forall_mem_cons, List.forall_mem_append, Option.mem_toList,
    Option.mem_def]

end Enumeration

namespace ClassParts

/-- The strings that a class is made from, members apart. -/
def strings (parts : ClassParts) : List String :=
  parts.name :: (parts.base.toList ++ parts.documentation.toList)

theorem forall_mem_strings_iff {parts : ClassParts} {holds : String → Prop} :
    (∀ text ∈ parts.strings, holds text) ↔
      holds parts.name ∧ (∀ base ∈ parts.base, holds base) ∧
        ∀ given ∈ parts.documentation, holds given := by
  simp only [strings, List.forall_mem_cons, List.forall_mem_append, Option.mem_toList,
    Option.mem_def]

end ClassParts

namespace Element

/-- The strings that an element is made from; a class stands for itself and not for its
members. -/
def strings (context : Context) : Element → List String
  | .function content => content.strings
  | .member content => content.strings context
  | .data content => content.strings
  | .array content => content.strings
  | .enumeration content => content.strings
  | .classType content => content.parts.strings

theorem strings_bare_subset (context : Context) (element : Element) :
    element.bare.strings context ⊆ element.strings context := by
  have behind {front : List String} (documentation : Option String) :
      front ++ (none : Option String).toList ⊆ front ++ documentation.toList := by
    rw [Option.toList_none, List.append_nil]
    exact List.subset_append_left front documentation.toList
  cases element with
  | function content => exact List.cons_subset_cons _ (behind _)
  | member content =>
      cases content with
      | method content => exact List.cons_subset_cons _ (behind _)
      | constructor content =>
          exact List.append_subset.mpr
            ⟨List.subset_append_of_subset_left _ (List.cons_subset_cons _ (behind _)),
              List.subset_append_right _ _⟩
  | data content => exact List.cons_subset_cons _ (List.cons_subset_cons _ (behind _))
  | array content => exact List.cons_subset_cons _ (List.cons_subset_cons _ (behind _))
  | enumeration content => exact List.cons_subset_cons _ (List.cons_subset_cons _ (behind _))
  | classType content =>
      cases content
      exact List.cons_subset_cons _ (behind _)

theorem documentation_mem_strings (context : Context) (element : Element) {given : String}
    (documented : given ∈ element.documentation) : given ∈ element.strings context := by
  have isListed := Option.mem_toList.mpr documented
  cases element with
  | member content =>
      cases content with
      | method content => exact List.mem_cons_of_mem _ (List.mem_append_right _ isListed)
      | constructor content =>
          exact List.mem_append_left _ (List.mem_cons_of_mem _ (List.mem_append_right _ isListed))
  | function content => exact List.mem_cons_of_mem _ (List.mem_append_right _ isListed)
  | classType content => exact List.mem_cons_of_mem _ (List.mem_append_right _ isListed)
  | _ => exact List.mem_cons_of_mem _ (List.mem_cons_of_mem _ (List.mem_append_right _ isListed))

/-- The strings, the documentation and the body of the element are of the material, and the
names of the scopes around it are texts of the material. -/
structure MadeOf (material : Material) (context : Context) (element : Element) : Prop where
  strings : ∀ text ∈ element.bare.strings context, material.text text
  documentation : ∀ given ∈ element.documentation, material.documentation given
  body : ∀ content ∈ element.body, material.body content
  around : ∀ outer ∈ context.scopes.namesAround (element.link context.scopes), material.text outer

end Element

theorem append_ne_empty {front back : String} (nonempty : back ≠ "") :
    front ++ back ≠ "" := by
  simp [nonempty]

theorem Variable.lineOf_ne_empty (head : String) (value : Option String) :
    lineOf head value ≠ "" := by
  cases value <;> exact append_ne_empty (by decide)

variable {material : Material} (compositional : IsCompositional material.text) {context : Context}
  {depth : Nat}

include compositional

/-! ## Functions -/

namespace FreeFunction

variable {function : FreeFunction} (made : (Element.function function).MadeOf material context)

include made

theorem madeOf_header : material.text function.header := by
  obtain ⟨named, typed, arguments, _⟩ := forall_mem_strings_iff.mp made.strings
  apply compositional.join
  simp only [List.forall_mem_cons]
  exact ⟨compositional.keyword _ _, compositional.getD typed,
    compositional.signature named arguments, List.forall_mem_nil _⟩

theorem madeOf_render : function.render.MadeOf material depth := by
  apply gives_bind
  intro _ _
  cases hasBody : function.body with
  | none => exact gives_error _
  | some content =>
      exact gives_pure (madeOf_documented_block made.documentation
        (madeOf_header compositional made) compositional.empty (.body (made.body content hasBody)))

theorem madeOf_declaration : function.declaration.MadeOf material depth := by
  apply gives_bind
  intro _ _
  split
  · exact madeOf_render compositional made
  · exact gives_pure (madeOf_documented_line made.documentation
      (compositional.semicolon (madeOf_header compositional made)) (append_ne_empty (by decide)))

theorem madeOf_definition : function.definition.MadeOf material depth := by
  rw [definition]
  split
  · exact gives_bind fun _ _ => gives_pure .nothing
  · exact madeOf_render compositional made

end FreeFunction

namespace Method

variable {method : Method}

theorem madeOf_header (strings : ∀ text ∈ method.bare.strings, material.text text) :
    material.text method.header := by
  obtain ⟨named, typed, arguments, _⟩ := forall_mem_strings_iff.mp strings
  rw [header]
  generalize parts_eq : [_, _, _, _, _, _, _, _, _] = parts
  have joined : material.text (Declarator.join parts) := by
    apply compositional.join
    subst parts_eq
    simp only [List.forall_mem_cons]
    exact ⟨compositional.keyword _ _, compositional.keyword _ _, compositional.keyword _ _,
      compositional.keyword _ _, compositional.getD typed,
      compositional.signature named arguments, compositional.keyword _ _,
      compositional.keyword _ _, compositional.keyword _ _, List.forall_mem_nil _⟩
  split
  · exact compositional.append joined (compositional.plain (by decide))
  · exact joined

/-- A function with its body under a header of the material. -/
theorem madeOf_around {kind : ElementKind} {header : String}
    (documented : ∀ given ∈ method.documentation, material.documentation given)
    (bodies : ∀ content ∈ method.body, material.body content) (ofHeader : material.text header) :
    Rendering.MadeOf material depth (do
      let content ← method.requireBody kind
      pure (Script.ofDoc method.documentation ++ [.block header "" content])) := by
  apply gives_bind
  intro content required
  have hasBody := (requireBody_eq_ok_iff _ _ _).mp required
  exact gives_pure (madeOf_documented_block documented ofHeader compositional.empty
    (.body (bodies content hasBody)))

section Renderings

variable (made : (Element.member (.method method)).MadeOf material context)

include made

theorem madeOf_outerHeader : material.text (method.outerHeader context) := by
  obtain ⟨named, typed, arguments, _⟩ := forall_mem_strings_iff.mp made.strings
  have outerType : material.text (method.outerReturnType context) := by
    rw [outerReturnType]
    cases hasType : method.returnType with
    | none => exact compositional.empty
    | some type => exact compositional.resolveType (typed type hasType) made.around
  have fullName : material.text (method.fullName context) :=
    compositional.qualifiedName named made.around
  apply compositional.join
  simp only [List.forall_mem_cons]
  exact ⟨outerType, compositional.signature fullName arguments, compositional.keyword _ _,
    List.forall_mem_nil _⟩

theorem madeOf_render : (method.render context).MadeOf material depth :=
  gives_bind fun _ _ => madeOf_around compositional made.documentation made.body
    (madeOf_header compositional made.strings)

theorem madeOf_declaration : (method.declaration context).MadeOf material depth := by
  apply gives_bind
  intro _ _
  split
  · exact madeOf_render compositional made
  · exact gives_pure (madeOf_documented_line made.documentation
      (compositional.semicolon (madeOf_header compositional made.strings))
      (append_ne_empty (by decide)))

theorem madeOf_definition : (method.definition context).MadeOf material depth := by
  apply gives_bind
  intro _ _
  split
  · exact gives_error _
  · exact madeOf_around compositional made.documentation made.body
      (madeOf_outerHeader compositional made)

end Renderings

end Method

namespace Constructor

variable {constructor : Constructor}
  (made : (Element.member (.constructor constructor)).MadeOf material context)

include made

theorem madeOf_headerAs {name : String} (named : material.text name) :
    material.text (constructor.headerAs context name) := by
  obtain ⟨ofMethod, resolved⟩ := List.forall_mem_append.mp made.strings
  obtain ⟨_, _, arguments, _⟩ := Method.forall_mem_strings_iff.mp ofMethod
  have clause : material.text (constructor.initializers.clause context) := by
    rw [Initializers.clause]
    cases listed : constructor.initializers.resolve context with
    | nil => exact compositional.empty
    | cons first rest =>
        have list : material.text (", ".intercalate (first :: rest)) := by
          rw [← listed]
          exact compositional.intercalate (by decide) resolved
        exact compositional.append (compositional.plain (by decide)) list
  exact compositional.append (compositional.signature named arguments) clause

theorem madeOf_render : (constructor.render context).MadeOf material depth := by
  obtain ⟨named, _⟩ :=
    Method.forall_mem_strings_iff.mp (List.forall_mem_append.mp made.strings).1
  exact gives_bind fun _ _ => Method.madeOf_around compositional made.documentation made.body
    (madeOf_headerAs compositional made named)

theorem madeOf_declaration : (constructor.declaration context).MadeOf material depth := by
  obtain ⟨named, _, arguments, _⟩ :=
    Method.forall_mem_strings_iff.mp (List.forall_mem_append.mp made.strings).1
  exact gives_bind fun _ _ => gives_pure (madeOf_documented_line made.documentation
    (compositional.semicolon (compositional.signature named arguments))
    (append_ne_empty (by decide)))

theorem madeOf_definition : (constructor.definition context).MadeOf material depth := by
  obtain ⟨named, _⟩ :=
    Method.forall_mem_strings_iff.mp (List.forall_mem_append.mp made.strings).1
  have fullName : material.text (constructor.fullName context) :=
    compositional.qualifiedName named made.around
  exact gives_bind fun _ _ => Method.madeOf_around compositional made.documentation made.body
    (madeOf_headerAs compositional made fullName)

end Constructor

/-! ## Variables, arrays and enumerations -/

namespace Variable

theorem madeOf_lineOf {head : String} {value : Option String} (headed : material.text head)
    (valued : ∀ given ∈ value, material.text given) : material.text (lineOf head value) := by
  cases value with
  | none => exact compositional.semicolon headed
  | some given =>
      have equals := compositional.append headed (compositional.plain (by decide : IsPlain " = "))
      exact compositional.semicolon (compositional.append equals (valued given rfl))

variable {data : Variable} (made : (Element.data data).MadeOf material context)

include made

theorem madeOf_freeHead : material.text data.freeHead := by
  obtain ⟨named, typed, _⟩ := forall_mem_strings_iff.mp made.strings
  apply compositional.join
  simp only [List.forall_mem_cons]
  exact ⟨compositional.keyword _ _, compositional.keyword _ _, compositional.keyword _ _,
    compositional.keyword _ _, typed, named, List.forall_mem_nil _⟩

theorem madeOf_memberHead : material.text data.memberHead := by
  obtain ⟨named, typed, _⟩ := forall_mem_strings_iff.mp made.strings
  apply compositional.join
  simp only [List.forall_mem_cons]
  exact ⟨compositional.keyword _ _, compositional.keyword _ _, compositional.keyword _ _, typed,
    named, List.forall_mem_nil _⟩

theorem madeOf_outerHead : material.text (data.outerHead context) := by
  obtain ⟨named, typed, _⟩ := forall_mem_strings_iff.mp made.strings
  apply compositional.join
  simp only [List.forall_mem_cons]
  exact ⟨compositional.keyword _ _, compositional.resolveType typed made.around,
    compositional.qualifiedName named made.around, List.forall_mem_nil _⟩

/-- The value may be left out. -/
theorem madeOf_written {head : String} {value : Option String} (headed : material.text head)
    (isValue : value = data.value ∨ value = none) :
    (data.written head value).MadeOf material depth := by
  obtain ⟨_, _, valued, _⟩ := forall_mem_strings_iff.mp made.strings
  apply madeOf_documented_line made.documentation (madeOf_lineOf compositional headed ?_)
    (lineOf_ne_empty head value)
  rcases isValue with rfl | rfl
  · exact valued
  · rintro given ⟨⟩

theorem madeOf_render : data.render.MadeOf material depth :=
  gives_bind fun _ _ =>
    gives_pure (madeOf_written compositional made (madeOf_freeHead compositional made) (.inl rfl))

theorem madeOf_declaration : (data.declaration context).MadeOf material depth := by
  rw [declaration]
  split
  · have shown : data.memberValue = data.value ∨ data.memberValue = none := by
      rw [memberValue]
      split
      · exact .inr rfl
      · exact .inl rfl
    exact gives_bind fun _ _ =>
      gives_pure (madeOf_written compositional made (madeOf_memberHead compositional made) shown)
  · exact madeOf_render compositional made

theorem madeOf_definition : (data.definition context).MadeOf material depth := by
  apply gives_bind
  intro _ _
  split
  · exact gives_pure
      (madeOf_written compositional made (madeOf_outerHead compositional made) (.inl rfl))
  · exact gives_pure .nothing

end Variable

namespace ArrayVariable

/-- A head, a name and the brackets behind it. -/
theorem madeOf_bracketed {head name size : String} (headed : material.text head)
    (named : material.text name) (sized : material.text size) :
    material.text (head ++ " " ++ name ++ "[" ++ size ++ "]") := by
  have space := compositional.append headed (compositional.plain (by decide : IsPlain " "))
  have opening := compositional.append (compositional.append space named)
    (compositional.plain (by decide : IsPlain "["))
  exact compositional.append (compositional.append opening sized) (compositional.plain (by decide))

variable {array : ArrayVariable} (made : (Element.array array).MadeOf material context)

include made

theorem madeOf_head : material.text array.head := by
  obtain ⟨_, typed, _⟩ := forall_mem_strings_iff.mp made.strings
  apply compositional.join
  simp only [List.forall_mem_cons]
  exact ⟨compositional.keyword _ _, compositional.keyword _ _, typed, List.forall_mem_nil _⟩

theorem madeOf_outerHead : material.text array.outerHead := by
  obtain ⟨_, typed, _⟩ := forall_mem_strings_iff.mp made.strings
  apply compositional.join
  simp only [List.forall_mem_cons]
  exact ⟨compositional.keyword _ _, typed, List.forall_mem_nil _⟩

/-- The items of an array stand in braces. -/
theorem madeOf_initialized {head name : String} (headed : material.text head)
    (named : material.text name) : (array.initialized head name).MadeOf material depth := by
  have items : ∀ item ∈ array.items, material.text item :=
    (forall_mem_strings_iff.mp made.strings).2.2.1
  have size : material.text array.sizeText := by
    rw [sizeText]
    cases array.size with
    | none => exact compositional.empty
    | some size => exact compositional.plain (isPlain_toString size)
  have start := madeOf_bracketed compositional headed named size
  apply madeOf_documented_line made.documentation
  · rw [initializedLine]
    split
    · exact compositional.semicolon start
    · have list := compositional.intercalate (by decide : IsPlain ", ") items
      have equals := compositional.append start (compositional.plain (by decide : IsPlain " = "))
      have line := compositional.semicolon
        (compositional.append equals (compositional.inBraces list))
      have opening : " = \x7b" = " = " ++ "\x7b" := rfl
      have closing : "\x7d;" = "\x7d" ++ ";" := rfl
      simpa only [opening, closing, String.append_assoc] using line
  · rw [initializedLine]
    split <;> exact append_ne_empty (by decide)

theorem madeOf_memberLine : material.text array.memberLine := by
  have named : material.text array.name := (forall_mem_strings_iff.mp made.strings).1
  have sized : material.text
      (if array.isStatic then "" else toString (array.size.getD array.items.length)) := by
    split
    · exact compositional.empty
    · exact compositional.plain (isPlain_toString _)
  have line := compositional.semicolon
    (madeOf_bracketed compositional (madeOf_head compositional made) named sized)
  have closing : "];" = "]" ++ ";" := rfl
  simpa only [memberLine, closing, String.append_assoc] using line

theorem madeOf_render : array.render.MadeOf material depth := by
  obtain ⟨named, _⟩ := forall_mem_strings_iff.mp made.strings
  exact gives_bind fun _ _ =>
    gives_pure (madeOf_initialized compositional made (madeOf_head compositional made) named)

theorem madeOf_declaration : (array.declaration context).MadeOf material depth := by
  rw [declaration]
  split
  · exact gives_bind fun _ _ => gives_pure (madeOf_documented_line made.documentation
      (madeOf_memberLine compositional made) (append_ne_empty (by decide)))
  · exact madeOf_render compositional made

theorem madeOf_definition : (array.definition context).MadeOf material depth := by
  obtain ⟨named, _⟩ := forall_mem_strings_iff.mp made.strings
  apply gives_bind
  intro _ _
  split
  · exact gives_pure (madeOf_initialized compositional made (madeOf_outerHead compositional made)
      (compositional.qualifiedName named made.around))
  · exact gives_pure .nothing

end ArrayVariable

namespace Enumeration

/-- A marked name and its number. -/
theorem madeOf_numbered {mark name equals : String} (marked : material.text mark)
    (named : material.text name) (isEquals : IsPlain equals) (number : Nat) :
    material.text (mark ++ name ++ equals ++ toString number) :=
  compositional.append
    (compositional.append (compositional.append marked named) (compositional.plain isEquals))
    (compositional.plain (isPlain_toString number))

theorem madeOf_itemLines {mark : String} (marked : material.text mark) (first : Nat)
    {items : List String} (ofItems : ∀ item ∈ items, material.text item) :
    ∀ line ∈ itemLines mark first items, material.text line ∧ line ≠ "" := by
  induction items generalizing first with
  | nil => exact List.forall_mem_nil _
  | cons item rest inductionHypothesis =>
      obtain ⟨ofItem, ofRest⟩ := List.forall_mem_cons.mp ofItems
      have line := compositional.append
        (madeOf_numbered compositional marked ofItem (by decide : IsPlain " = ") first)
        (compositional.plain (by decide : IsPlain ","))
      exact List.forall_mem_cons.mpr
        ⟨⟨line, append_ne_empty (by decide)⟩, inductionHypothesis (first + 1) ofRest⟩

theorem madeOf_render {enumeration : Enumeration}
    (made : (Element.enumeration enumeration).MadeOf material context) :
    enumeration.render.MadeOf material depth := by
  obtain ⟨named, marked, items, _⟩ := forall_mem_strings_iff.mp made.strings
  have header : material.text enumeration.header := by
    rw [Enumeration.header]
    split
    · exact compositional.append (compositional.plain (by decide)) named
    · exact compositional.append (compositional.plain (by decide)) named
  have counter : material.text enumeration.counterLine ∧ enumeration.counterLine ≠ "" := by
    refine ⟨madeOf_numbered compositional marked named (by decide) _, ?_⟩
    rw [counterLine, String.append_assoc]
    simp
  have lines := List.forall_mem_append.mpr
    ⟨madeOf_itemLines compositional marked 0 items, List.forall_mem_singleton.mpr counter⟩
  exact gives_pure (madeOf_documented_block made.documentation header
    (compositional.plain (by decide)) (madeOf_ofLines lines))

end Enumeration

end CppModel
