import CppModel.Proofs.Rendering.Shape

/-!
# The forms of elements and the sides of units

An element has a declaration, a definition, and the form that is its own; a unit has
a header and a source.  Each of these renderings has one of the shapes of scripts,
where the body in it is that of the element.  The rendering of a class never shows a
body directly: it is written as a whole, or in paragraphs.
-/

namespace CppModel

open Rendering (HasShape hasShape_pure hasShape_error hasShape_bind hasShape_paragraphs)
open Script (Shape)

namespace FreeFunction

theorem hasShape_render (function : FreeFunction) : HasShape function.body function.render := by
  apply hasShape_bind
  intro _ _
  cases hasBody : function.body with
  | none => exact hasShape_error _
  | some content => exact hasShape_pure (.around _ _ content rfl)

theorem hasShape_declaration (function : FreeFunction) :
    HasShape function.body function.declaration := by
  apply hasShape_bind
  intro _ _
  split
  · exact function.hasShape_render
  · exact hasShape_pure (.line _ _)

theorem hasShape_definition (function : FreeFunction) :
    HasShape function.body function.definition := by
  rw [definition]
  split
  · exact hasShape_bind fun _ _ => hasShape_pure .nothing
  · exact function.hasShape_render

end FreeFunction

namespace Method

theorem requireBody_eq_ok_iff (kind : ElementKind) (method : Method) (content : Script) :
    method.requireBody kind = .ok content ↔ method.body = some content := by
  rw [requireBody]
  cases method.body <;> simp

theorem hasShape_render (context : Context) (method : Method) :
    HasShape method.body (method.render context) := by
  apply hasShape_bind
  intro _ _
  apply hasShape_bind
  intro content required
  exact hasShape_pure (.around _ _ content ((requireBody_eq_ok_iff _ _ _).mp required))

theorem hasShape_declaration (context : Context) (method : Method) :
    HasShape method.body (method.declaration context) := by
  apply hasShape_bind
  intro _ _
  split
  · exact method.hasShape_render context
  · exact hasShape_pure (.line _ _)

theorem hasShape_definition (context : Context) (method : Method) :
    HasShape method.body (method.definition context) := by
  apply hasShape_bind
  intro _ _
  split
  · exact hasShape_error _
  · apply hasShape_bind
    intro content required
    exact hasShape_pure (.around _ _ content ((requireBody_eq_ok_iff _ _ _).mp required))

end Method

namespace Constructor

theorem hasShape_render (context : Context) (constructor : Constructor) :
    HasShape constructor.body (constructor.render context) := by
  apply hasShape_bind
  intro _ _
  apply hasShape_bind
  intro content required
  exact hasShape_pure (.around _ _ content ((Method.requireBody_eq_ok_iff _ _ _).mp required))

theorem hasShape_declaration (context : Context) (constructor : Constructor) :
    HasShape constructor.body (constructor.declaration context) :=
  hasShape_bind fun _ _ => hasShape_pure (.line _ _)

theorem hasShape_definition (context : Context) (constructor : Constructor) :
    HasShape constructor.body (constructor.definition context) := by
  apply hasShape_bind
  intro _ _
  apply hasShape_bind
  intro content required
  exact hasShape_pure (.around _ _ content ((Method.requireBody_eq_ok_iff _ _ _).mp required))

end Constructor

namespace MemberFunction

theorem hasShape_declaration (context : Context) (function : MemberFunction) :
    HasShape function.body (function.declaration context) := by
  cases function with
  | method content => exact content.hasShape_declaration context
  | constructor content => exact content.hasShape_declaration context

theorem hasShape_definition (context : Context) (function : MemberFunction) :
    HasShape function.body (function.definition context) := by
  cases function with
  | method content => exact content.hasShape_definition context
  | constructor content => exact content.hasShape_definition context

end MemberFunction

namespace Variable

theorem shape_written (data : Variable) (head : String) (value : Option String) :
    Shape none (data.written head value) :=
  .line _ _

theorem hasShape_render (data : Variable) : HasShape none data.render :=
  hasShape_bind fun _ _ => hasShape_pure (data.shape_written _ _)

theorem hasShape_declaration (context : Context) (data : Variable) :
    HasShape none (data.declaration context) := by
  rw [declaration]
  split
  · exact hasShape_bind fun _ _ => hasShape_pure (data.shape_written _ _)
  · exact data.hasShape_render

theorem hasShape_definition (context : Context) (data : Variable) :
    HasShape none (data.definition context) := by
  apply hasShape_bind
  intro _ _
  split
  · exact hasShape_pure (data.shape_written _ _)
  · exact hasShape_pure .nothing

end Variable

namespace ArrayVariable

theorem shape_initialized (array : ArrayVariable) (head name : String) :
    Shape none (array.initialized head name) :=
  .line _ _

theorem hasShape_render (array : ArrayVariable) : HasShape none array.render :=
  hasShape_bind fun _ _ => hasShape_pure (array.shape_initialized _ _)

theorem hasShape_declaration (context : Context) (array : ArrayVariable) :
    HasShape none (array.declaration context) := by
  rw [declaration]
  split
  · exact hasShape_bind fun _ _ => hasShape_pure (.line _ _)
  · exact array.hasShape_render

theorem hasShape_definition (context : Context) (array : ArrayVariable) :
    HasShape none (array.definition context) := by
  apply hasShape_bind
  intro _ _
  split
  · exact hasShape_pure (array.shape_initialized _ _)
  · exact hasShape_pure .nothing

end ArrayVariable

theorem Enumeration.hasShape_render (enumeration : Enumeration) :
    HasShape none enumeration.render :=
  hasShape_pure (.lines _ _ _ _)

/-! ## Classes -/

/-- Every definition of a member has the shape of an element. -/
theorem ClassParts.hasShape_definitions (context : Context) (parts : ClassParts) :
    ∀ rendering ∈ parts.definitions context, ∃ body, HasShape body rendering := by
  intro rendering member
  simp only [definitions, List.mem_append, List.mem_map] at member
  rcases member with (⟨data, _, rfl⟩ | ⟨array, _, rfl⟩) | ⟨function, _, rfl⟩
  · exact ⟨none, data.hasShape_definition context⟩
  · exact ⟨none, array.hasShape_definition context⟩
  · exact ⟨function.body, function.hasShape_definition context⟩

namespace Class

mutual

/-- Every definition of a class, at any depth, has the shape of an element. -/
theorem hasShape_definitions (context : Context) :
    (owner : Class) → ∀ rendering ∈ owner.definitions context, ∃ body, HasShape body rendering
  | ⟨parts, nested⟩ => by
      intro rendering member
      rw [definitions, List.mem_append] at member
      rcases member with own | deeper
      · exact parts.hasShape_definitions context rendering own
      · exact hasShape_nestedDefinitions context nested rendering deeper

theorem hasShape_nestedDefinitions (context : Context) :
    (nested : List Class) →
      ∀ rendering ∈ nestedDefinitions context nested, ∃ body, HasShape body rendering
  | [] => by simp [nestedDefinitions]
  | inner :: rest => by
      intro rendering member
      rw [nestedDefinitions, List.mem_append] at member
      rcases member with first | later
      · exact hasShape_definitions context inner rendering first
      · exact hasShape_nestedDefinitions context rest rendering later

end

/-- The declaration of a class in terms of the declarations of its members. -/
theorem declaration_eq (context : Context) (owner : Class) :
    owner.declaration context = (do
      owner.validate context
      let publicPart ← Rendering.all (owner.publicDeclarations context)
      let privatePart ← Rendering.all (owner.privateDeclarations context)
      pure (owner.frame publicPart.flatten privatePart.flatten)) := by
  cases owner with
  | mk parts nested => rw [declaration]; rfl

theorem publicDeclarations_eq (context : Context) (owner : Class) :
    owner.publicDeclarations context =
      owner.parts.enumerations.map (·.declaration) ++ owner.nested.map (declaration context) ++
        owner.parts.functions.map (·.declaration context) := by
  have together (nested : List Class) :
      nestedDeclarations context nested = nested.map (declaration context) := by
    induction nested with
    | nil => rfl
    | cons inner rest inductionHypothesis =>
        rw [nestedDeclarations, inductionHypothesis, List.map_cons]
  rw [publicDeclarations, together]

theorem hasShape_declaration (context : Context) (owner : Class) :
    HasShape none (owner.declaration context) := by
  rw [declaration_eq]
  refine hasShape_bind fun _ _ => hasShape_bind fun publicPart _ =>
    hasShape_bind fun privatePart _ => hasShape_pure ?_
  exact .whole _ _ _ _

theorem hasShape_definition (context : Context) (owner : Class) :
    HasShape none (owner.definition context) :=
  hasShape_bind fun _ _ => hasShape_paragraphs (owner.hasShape_definitions context)

theorem hasShape_render (context : Context) (owner : Class) :
    HasShape none (owner.render context) := by
  apply hasShape_paragraphs
  intro rendering member
  simp only [List.mem_cons, List.not_mem_nil, or_false] at member
  rcases member with rfl | rfl
  · exact ⟨none, owner.hasShape_declaration context⟩
  · exact ⟨none, owner.hasShape_definition context⟩

end Class

/-! ## Elements and units -/

namespace Element

/-- The body of an element; only functions have one. -/
def body : Element → Option Script
  | .function content => content.body
  | .member content => content.body
  | _ => none

/-- Whether the element is a class, which is the only one to have members. -/
def isClass : Element → Bool
  | .classType _ => true
  | _ => false

theorem hasShape_rendering (context : Context) (element : Element) (form : Form) :
    HasShape element.body (element.rendering context form) := by
  cases element with
  | function content =>
      cases form with
      | declaration => exact content.hasShape_declaration
      | definition => exact content.hasShape_definition
      | own => exact content.hasShape_render
  | member content =>
      cases form with
      | declaration => exact content.hasShape_declaration context
      | definition => exact content.hasShape_definition context
      | own =>
          cases content with
          | method content => exact content.hasShape_render context
          | constructor content => exact content.hasShape_render context
  | data content =>
      cases form with
      | declaration => exact content.hasShape_declaration context
      | definition => exact content.hasShape_definition context
      | own => exact content.hasShape_render
  | array content =>
      cases form with
      | declaration => exact content.hasShape_declaration context
      | definition => exact content.hasShape_definition context
      | own => exact content.hasShape_render
  | enumeration content =>
      cases form with
      | declaration => exact content.hasShape_render
      | definition => exact hasShape_pure .nothing
      | own => exact content.hasShape_render
  | classType content =>
      cases form with
      | declaration => exact content.hasShape_declaration context
      | definition => exact content.hasShape_definition context
      | own => exact content.hasShape_render context

end Element

namespace TranslationUnit

/-- Either side of a unit has its elements in one form, in paragraphs. -/
theorem rendering_eq (context : Context) (unit : TranslationUnit) (side : Side) :
    unit.rendering context side = (do
      unit.validate context
      Rendering.paragraphs (unit.items.map (·.rendering context side.form))) := by
  cases side <;> rfl

theorem hasShape_items (context : Context) (unit : TranslationUnit) (form : Form) :
    ∀ rendering ∈ unit.items.map (·.rendering context form), ∃ body, HasShape body rendering := by
  intro rendering member
  rcases List.mem_map.mp member with ⟨element, _, rfl⟩
  exact ⟨element.body, element.hasShape_rendering context form⟩

theorem hasShape_rendering (context : Context) (unit : TranslationUnit) (side : Side) :
    HasShape none (unit.rendering context side) := by
  rw [rendering_eq]
  apply hasShape_bind
  intro _ _
  exact hasShape_paragraphs (unit.hasShape_items context side.form)

end TranslationUnit

end CppModel
