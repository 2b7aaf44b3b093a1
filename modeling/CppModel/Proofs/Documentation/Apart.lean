import CppModel.Proofs.Documentation.Bare
import CppModel.Proofs.Validation.Failure

/-!
# Documentation stands apart

An element without members is checked as it would be without its documentation, and each of
its forms is rendered as it would be without, but for the documentation in front.  Where the
form is empty, so that the element writes nothing, the documentation is left out as well: it
never is all that an element writes.
-/

namespace CppModel

/-- The script behind documentation, and nothing if the script is empty. -/
def Script.documented (documentation : Option String) : Script → Script
  | [] => []
  | step :: rest => ofDoc documentation ++ step :: rest

namespace Rendering

/-- The rendering is the bare one behind documentation. -/
def Documents (documentation : Option String) (bare rendering : Rendering) : Prop :=
  rendering = bare.map (Script.documented documentation)

variable {documentation : Option String}

theorem documents_step (step : Step) :
    Documents documentation (pure (Script.ofDoc none ++ [step]))
      (pure (Script.ofDoc documentation ++ [step])) :=
  rfl

theorem documents_nothing : Documents documentation (pure []) (pure []) :=
  rfl

theorem documents_error (error : Error) : Documents documentation (.error error) (.error error) :=
  rfl

theorem documents_bind {Value : Type} (first : Except Error Value) {bare next : Value → Rendering}
    (documents : ∀ value, Documents documentation (bare value) (next value)) :
    Documents documentation (first >>= bare) (first >>= next) := by
  cases first with
  | error error => rfl
  | ok value => exact documents value

theorem documents_ite {condition : Prop} [Decidable condition]
    {firstBare secondBare first second : Rendering}
    (firstDocuments : Documents documentation firstBare first)
    (secondDocuments : Documents documentation secondBare second) :
    Documents documentation (if condition then firstBare else secondBare)
      (if condition then first else second) := by
  split
  · exact firstDocuments
  · exact secondDocuments

theorem Documents.failure?_eq {bare rendering : Rendering}
    (documents : Documents documentation bare rendering) :
    failure? rendering = failure? bare := by
  rw [documents]
  cases bare <;> rfl

end Rendering

open Rendering (Documents documents_step documents_nothing documents_error documents_bind
  documents_ite)

namespace FreeFunction

variable (function : FreeFunction)

theorem documents_render :
    Documents function.documentation function.bare.render function.render := by
  apply documents_bind function.validate
  intro _
  have sameBody : function.bare.body = function.body := rfl
  rw [sameBody]
  cases function.body with
  | none => exact documents_error _
  | some content => exact documents_step _

theorem documents_declaration :
    Documents function.documentation function.bare.declaration function.declaration :=
  documents_bind function.validate fun _ =>
    documents_ite function.documents_render (documents_step _)

theorem documents_definition :
    Documents function.documentation function.bare.definition function.definition :=
  documents_ite (documents_bind function.validate fun _ => documents_nothing)
    function.documents_render

end FreeFunction

namespace Method

variable (context : Context) (method : Method)

theorem documents_render :
    Documents method.documentation (method.bare.render context) (method.render context) :=
  documents_bind (method.validate context) fun _ =>
    documents_bind (method.requireBody .method) fun _ => documents_step _

theorem documents_declaration :
    Documents method.documentation (method.bare.declaration context)
      (method.declaration context) :=
  documents_bind (method.validate context) fun _ =>
    documents_ite (method.documents_render context) (documents_step _)

theorem documents_definition :
    Documents method.documentation (method.bare.definition context) (method.definition context) :=
  documents_bind (method.validate context) fun _ =>
    documents_ite (documents_error _)
      (documents_bind (method.requireBody .method) fun _ => documents_step _)

end Method

namespace Constructor

variable (context : Context) (constructor : Constructor)

theorem documents_around (name : String) :
    Documents constructor.documentation
      (constructor.bare.toMethod.requireBody .constructor >>= fun content =>
        pure (Script.ofDoc none ++ [.block (constructor.bare.headerAs context name) "" content]))
      (constructor.toMethod.requireBody .constructor >>= fun content =>
        pure (Script.ofDoc constructor.documentation ++
          [.block (constructor.headerAs context name) "" content])) := by
  have sameHeader : constructor.bare.headerAs context name = constructor.headerAs context name := by
    rcases constructor with ⟨method, known | deferred⟩ <;> rfl
  rw [sameHeader]
  exact documents_bind (constructor.toMethod.requireBody .constructor) fun _ =>
    documents_step _

theorem documents_render :
    Documents constructor.documentation (constructor.bare.render context)
      (constructor.render context) :=
  documents_bind (constructor.validate context) fun _ =>
    constructor.documents_around context constructor.name

theorem documents_declaration :
    Documents constructor.documentation (constructor.bare.declaration context)
      (constructor.declaration context) :=
  documents_bind (constructor.validate context) fun _ => documents_step _

theorem documents_definition :
    Documents constructor.documentation (constructor.bare.definition context)
      (constructor.definition context) :=
  documents_bind (constructor.validate context) fun _ =>
    constructor.documents_around context (constructor.fullName context)

end Constructor

namespace Variable

variable (context : Context) (data : Variable)

theorem documents_render : Documents data.documentation data.bare.render data.render :=
  documents_bind data.validate fun _ => documents_step _

theorem documents_declaration :
    Documents data.documentation (data.bare.declaration context) (data.declaration context) :=
  documents_ite (documents_bind data.validate fun _ => documents_step _)
    data.documents_render

theorem documents_definition :
    Documents data.documentation (data.bare.definition context) (data.definition context) :=
  documents_bind data.validate fun _ =>
    documents_ite (documents_step _) documents_nothing

end Variable

namespace ArrayVariable

variable (context : Context) (array : ArrayVariable)

theorem documents_render : Documents array.documentation array.bare.render array.render :=
  documents_bind array.validate fun _ => documents_step _

theorem documents_declaration :
    Documents array.documentation (array.bare.declaration context) (array.declaration context) :=
  documents_ite (documents_bind array.validate fun _ => documents_step _)
    array.documents_render

theorem documents_definition :
    Documents array.documentation (array.bare.definition context) (array.definition context) :=
  documents_bind array.validate fun _ =>
    documents_ite (documents_step _) documents_nothing

end ArrayVariable

/-! ## Elements without members -/

namespace Element

variable {element : Element}

theorem documents_rendering (alone : element.isClass = false) (context : Context) (form : Form) :
    Documents element.documentation (element.bare.rendering context form)
      (element.rendering context form) := by
  cases element with
  | function content =>
      cases form with
      | declaration => exact content.documents_declaration
      | definition => exact content.documents_definition
      | own => exact content.documents_render
  | member content =>
      cases content with
      | method content =>
          cases form with
          | declaration => exact content.documents_declaration context
          | definition => exact content.documents_definition context
          | own => exact content.documents_render context
      | constructor content =>
          cases form with
          | declaration => exact content.documents_declaration context
          | definition => exact content.documents_definition context
          | own => exact content.documents_render context
  | data content =>
      cases form with
      | declaration => exact content.documents_declaration context
      | definition => exact content.documents_definition context
      | own => exact content.documents_render
  | array content =>
      cases form with
      | declaration => exact content.documents_declaration context
      | definition => exact content.documents_definition context
      | own => exact content.documents_render
  | enumeration content =>
      cases form with
      | declaration => exact documents_step _
      | definition => exact documents_nothing
      | own => exact documents_step _
  | classType content => cases alone

theorem isClass_bare (element : Element) : element.bare.isClass = element.isClass := by
  rcases element with _ | (_ | _) | _ | _ | _ | ⟨_, _⟩ <;> rfl

theorem validate_bare (context : Context) (element : Element) :
    element.bare.validate context = element.validate context := by
  cases element with
  | member content => cases content <;> rfl
  | classType owner =>
      cases owner
      simp only [bare, validate, Class.validate]
      rfl
  | _ => rfl

theorem body_bare (element : Element) : element.bare.body = element.body := by
  rcases element with _ | (_ | _) | _ | _ | _ | ⟨_, _⟩ <;> rfl

theorem documentation_bare (element : Element) : element.bare.documentation = none := by
  rcases element with _ | (_ | _) | _ | _ | _ | ⟨_, _⟩ <;> rfl

theorem bare_bare (element : Element) : element.bare.bare = element.bare := by
  rcases element with _ | (_ | _) | _ | _ | _ | ⟨_, _⟩ <;> rfl

end Element

end CppModel
