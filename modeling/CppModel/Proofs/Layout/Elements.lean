import CppModel.Proofs.Layout.Place
import CppModel.Proofs.Validation.Elements

/-!
# The layout of elements without members

What the declaration of an element writes is a text that can be computed from the element
and its place: the documentation, and behind it a line or a block.  A block shows a body,
which stands one level further in, or the items of an enumeration.

An element that is valid prints its layout, if its body ends at the level where it
began.
-/

namespace CppModel

open Procedure Process
open Script (Prints prints_nil prints_ofLines prints_block prints_documented_line
  prints_documented_block)

namespace Rendering

/-- The rendering gives a script that prints the text in the place. -/
def Prints (place : Place) (text : String) (rendering : Rendering) : Prop :=
  ∃ script, rendering = .ok script ∧ script.Prints place text

variable {place : Place} {text : String}

theorem prints_pure {script : Script} (prints : script.Prints place text) :
    Prints place text (pure script) :=
  ⟨script, rfl, prints⟩

theorem prints_bind {Value : Type} {first : Except Error Value} {value : Value}
    {next : Value → Rendering} (passed : first = .ok value)
    (prints : Prints place text (next value)) :
    Prints place text (first >>= next) := by
  rw [passed]
  exact prints

theorem Prints.append {first second : Rendering} {secondText : String}
    (prints : Prints place text first) (secondPrints : Prints place secondText second) :
    Prints place (text ++ secondText) (first.append second) := by
  obtain ⟨front, rfl, frontPrints⟩ := prints
  obtain ⟨back, rfl, backPrints⟩ := secondPrints
  exact ⟨front ++ back, rfl, frontPrints.append backPrints⟩

/-- Renderings of items in a row print the texts of the items. -/
theorem prints_inRow {Item : Type} {items : List Item} {render : Item → Rendering}
    {layout : Item → String} (prints : ∀ item ∈ items, Prints place (layout item) (render item)) :
    Prints place (String.join (items.map layout)) (inRow (items.map render)) := by
  induction items with
  | nil => exact prints_pure (prints_nil place)
  | cons first rest inductionHypothesis =>
      obtain ⟨firstPrints, restPrint⟩ := List.forall_mem_cons.mp prints
      rw [List.map_cons, List.map_cons, inRow_cons, String.join_cons]
      exact firstPrints.append (inductionHypothesis restPrint)

end Rendering

open Rendering (prints_pure prints_bind prints_inRow)

/-- A function where it is declared: with the body that it shows, or with a semicolon. -/
def Place.function (place : Place) (header : String) : Option Script → String
  | some content => place.block header "" (content.textAt place.inner.sink)
  | none => place.line (header ++ ";")

/-- A function with a body that restores its level prints it. -/
theorem Script.prints_documented_function {place : Place} (documentation : Option String)
    (header : String) {content : Script} (restores : content.Restores place.inner.level) :
    Prints place (place.documentation documentation ++ place.function header (some content))
      (ofDoc documentation ++ [.block header "" content]) :=
  prints_documented_block documentation header "" fun _ => restores.run_eq

namespace FreeFunction

/-- The declaration of the function; a `constexpr` one shows its body. -/
def layout (place : Place) (function : FreeFunction) : String :=
  place.documentation function.documentation ++
    place.function function.header (if function.isConstexpr then function.body else none)

theorem prints_declaration {place : Place} {function : FreeFunction}
    (valid : function.validate = .ok ())
    (restores : ∀ content, function.body = some content → content.Restores place.inner.level) :
    function.declaration.Prints place (function.layout place) := by
  apply prints_bind valid
  by_cases isConstexpr : function.isConstexpr = true
  · obtain ⟨content, hasBody⟩ :=
      Option.isSome_iff_exists.mp (body_isSome_of_isConstexpr valid isConstexpr)
    rw [if_pos isConstexpr, layout, if_pos isConstexpr, render, hasBody]
    have prints := Script.prints_documented_function function.documentation function.header
      (restores content hasBody)
    exact prints_bind valid (prints_pure prints)
  · rw [if_neg isConstexpr, layout, if_neg isConstexpr]
    exact prints_pure (prints_documented_line place _ _)

end FreeFunction

namespace Method

/-- The declaration of the method; a `constexpr` one shows its body. -/
def layout (place : Place) (method : Method) : String :=
  place.documentation method.documentation ++
    place.function method.header (if method.modifiers.isConstexpr then method.body else none)

theorem prints_declaration {context : Context} {place : Place} {method : Method}
    (valid : method.validate context = .ok ())
    (restores : ∀ content, method.body = some content → content.Restores place.inner.level) :
    (method.declaration context).Prints place (method.layout place) := by
  apply prints_bind valid
  by_cases isConstexpr : method.modifiers.isConstexpr = true
  · obtain ⟨content, hasBody⟩ :=
      Option.isSome_iff_exists.mp (body_isSome_of_isConstexpr valid isConstexpr)
    have required := (requireBody_eq_ok_iff .method method content).mpr hasBody
    rw [if_pos isConstexpr, layout, if_pos isConstexpr, hasBody]
    have prints := Script.prints_documented_function method.documentation method.header
      (restores content hasBody)
    exact prints_bind valid (prints_bind required (prints_pure prints))
  · rw [if_neg isConstexpr, layout, if_neg isConstexpr]
    exact prints_pure (prints_documented_line place _ _)

end Method

namespace Constructor

/-- The declaration of the constructor, which shows neither body nor initializers. -/
def layout (place : Place) (constructor : Constructor) : String :=
  place.documentation constructor.documentation ++
    place.function (Declarator.signature constructor.name constructor.arguments) none

theorem prints_declaration {context : Context} {place : Place} {constructor : Constructor}
    (valid : constructor.validate context = .ok ()) :
    (constructor.declaration context).Prints place (constructor.layout place) :=
  prints_bind valid (prints_pure (prints_documented_line place _ _))

end Constructor

namespace MemberFunction

/-- The declaration of the function. -/
def layout (place : Place) : MemberFunction → String
  | .method content => content.layout place
  | .constructor content => content.layout place

theorem prints_declaration {context : Context} {place : Place} {function : MemberFunction}
    (valid : function.validate context = .ok ())
    (restores : ∀ content, function.body = some content → content.Restores place.inner.level) :
    (function.declaration context).Prints place (function.layout place) := by
  cases function with
  | method content => exact content.prints_declaration valid restores
  | constructor content => exact content.prints_declaration valid

end MemberFunction

namespace Variable

/-- The declaration of the variable: as a member where it is linked to a class. -/
def layout (context : Context) (place : Place) (data : Variable) : String :=
  place.documentation data.documentation ++
    place.line (if context.scopes.isAttached data.link then lineOf data.memberHead data.memberValue
      else lineOf data.freeHead data.value)

theorem prints_declaration {context : Context} {place : Place} {data : Variable}
    (valid : data.validate = .ok ()) :
    (data.declaration context).Prints place (data.layout context place) := by
  rw [declaration, layout]
  split <;> exact prints_bind valid (prints_pure (prints_documented_line place _ _))

end Variable

namespace ArrayVariable

/-- The declaration of the array: as a member where it is linked to a class. -/
def layout (context : Context) (place : Place) (array : ArrayVariable) : String :=
  place.documentation array.documentation ++
    place.line (if context.scopes.isAttached array.link then array.memberLine
      else array.initializedLine array.head array.name)

theorem prints_declaration {context : Context} {place : Place} {array : ArrayVariable}
    (valid : array.validate = .ok ()) :
    (array.declaration context).Prints place (array.layout context place) := by
  rw [declaration, layout]
  split <;> exact prints_bind valid (prints_pure (prints_documented_line place _ _))

end ArrayVariable

namespace Enumeration

/-- The declaration of the enumeration: a block of its items, and the counter behind them. -/
def layout (place : Place) (enumeration : Enumeration) : String :=
  place.documentation enumeration.documentation ++
    place.block enumeration.header ";" (String.join (enumeration.bodyLines.map place.inner.line))

theorem prints_declaration (place : Place) (enumeration : Enumeration) :
    enumeration.declaration.Prints place (enumeration.layout place) := by
  have body := prints_ofLines place.inner enumeration.bodyLines
  exact prints_pure (prints_documented_block enumeration.documentation enumeration.header ";"
    body.run_fst_eq)

end Enumeration

end CppModel
