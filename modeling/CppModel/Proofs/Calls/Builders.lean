import CppModel.Config.Elements
import CppModel.Proofs.Calls.Interleaving
import CppModel.Proofs.Class.Program

/-!
# Builders

An element can be made by calls: it is created with its name, and each further call sets one
option or adds one argument, item or initializer.  A configuration says which calls these
are.  Calls that add to the same list have to keep their order; the order of all other ones
is free.

However the calls of a configuration are ordered, they make the element that the
configuration describes.  Only constructors are different: a configuration can give them
modifiers and a return type, for which there is no call.
-/

namespace CppModel

open Config

/-- How items are made: what a configuration lets them start from, and the calls that it
stands for.  Calls of different kinds commute. -/
structure Builder (Settings Call Kind Item : Type) where
  start : Settings → Item
  take : Item → Call → Item
  calls : Settings → List Call
  kind : Call → Kind
  commutes : ∀ call other item, kind call ≠ kind other →
    take (take item call) other = take (take item other) call

namespace Builder

variable {Settings Call Kind Item : Type}

/-- The item is made by the calls of the configuration, in some order that keeps the order
of calls of one kind. -/
def Makes [DecidableEq Kind] (builder : Builder Settings Call Kind Item) (settings : Settings)
    (item : Item) : Prop :=
  ∃ calls, Interleaves builder.kind (builder.calls settings) calls ∧
    item = calls.foldl builder.take (builder.start settings)

/-- What the calls make in the order in which the configuration lists them. -/
def make (builder : Builder Settings Call Kind Item) (settings : Settings) : Item :=
  (builder.calls settings).foldl builder.take (builder.start settings)

theorem makes_make [DecidableEq Kind] (builder : Builder Settings Call Kind Item)
    (settings : Settings) : builder.Makes settings (builder.make settings) :=
  ⟨_, .refl _, rfl⟩

theorem eq_make_of_makes [DecidableEq Kind] {builder : Builder Settings Call Kind Item}
    {settings : Settings} {item : Item} (makes : builder.Makes settings item) :
    item = builder.make settings := by
  rcases makes with ⟨calls, same, rfl⟩
  exact (same.foldl_eq builder.commutes _).symm

end Builder

/-- A call if it is wanted. -/
def callIf {Call : Type} (wanted : Bool) (call : Call) : List Call :=
  if wanted then [call] else []

/-- Calls that each put one entry behind a list. -/
theorem foldl_grow {Entry Item : Type} (take : Item → Entry → Item) (grown : List Entry → Item)
    (grows : ∀ list entry, take (grown list) entry = grown (list ++ [entry]))
    (list entries : List Entry) :
    entries.foldl take (grown list) = grown (list ++ entries) := by
  induction entries generalizing list with
  | nil => rw [List.append_nil]; rfl
  | cons first rest inductionHypothesis =>
      rw [List.foldl_cons, grows, inductionHypothesis, List.append_assoc, List.singleton_append]

/-! ## Functions -/

namespace FreeFunction

/-- What can be called for on a function. -/
inductive Call
  | returns (type : String)
  | constexpr
  | argument (text : String)
  | body (content : Script)
  | document (text : String)

/-- How functions are built: the arguments in order, and all else at any time. -/
def builder : Builder FunctionConfig Call Nat FreeFunction where
  start config := .ofName config.name
  take function
    | .returns type => { function with returnType := some type }
    | .constexpr => { function with isConstexpr := true }
    | .argument text => function.addArgument text
    | .body content => { function with body := some content }
    | .document text => { function with documentation := some text }
  calls config :=
    config.returnType.toList.map .returns ++ callIf config.isConstexpr .constexpr ++
      config.implementation.toList.map (fun lines => .body (lines.map .line)) ++
      config.documentation.toList.map .document ++ config.arguments.map .argument
  kind := Call.ctorIdx
  commutes := by
    rintro (_ | _ | _ | _ | _) (_ | _ | _ | _ | _) function apart <;>
      first
        | rfl
        | exact absurd rfl apart

theorem foldl_arguments (function : FreeFunction) (arguments : List String) :
    (arguments.map .argument).foldl builder.take function =
      { function with arguments := function.arguments ++ arguments } := by
  rw [List.foldl_map]
  exact foldl_grow addArgument (fun list => { function with arguments := list })
    (fun _ _ => rfl) _ _

theorem make_eq (config : FunctionConfig) : builder.make config = ofConfig config := by
  refine (List.foldl_append ..).trans ((foldl_arguments _ _).trans ?_)
  rcases config with ⟨name, _ | type, _ | _, arguments, _ | lines, _ | text⟩ <;> rfl

end FreeFunction

/-! ## Member functions -/

namespace Modifiers

theorem set_comm (modifiers : Modifiers) {first second : Modifier} (apart : first ≠ second)
    (value other : Bool) :
    (modifiers.set first value).set second other =
      (modifiers.set second other).set first value := by
  cases first <;> cases second <;>
    first
      | rfl
      | exact absurd rfl apart

theorem ofList_toList : (modifiers : Modifiers) → ofList modifiers.toList = modifiers
  | ⟨isStatic, isConst, isConstexpr, isVirtual, isPureVirtual, isOverride, isFinal, isInline⟩ => by
      revert isStatic isConst isConstexpr isVirtual isPureVirtual isOverride isFinal isInline
      decide

end Modifiers

namespace Method

/-- What can be called for on a method. -/
inductive Call
  | returns (type : String)
  | modifier (content : Modifier)
  | argument (text : String)
  | body (content : Script)
  | document (text : String)

/-- Each modifier is a kind of its own. -/
def Call.kind : Call → Modifier ⊕ Nat
  | .modifier content => .inl content
  | call => .inr call.ctorIdx

/-- How methods are built: the arguments in order, and all else at any time. -/
def builder : Builder MethodConfig Call (Modifier ⊕ Nat) Method where
  start config := .ofName config.name
  take method
    | .returns type => { method with returnType := some type }
    | .modifier content => method.withModifier content
    | .argument text => method.addArgument text
    | .body content => { method with body := some content }
    | .document text => { method with documentation := some text }
  calls config :=
    config.modifiers.toList.map .modifier ++
      (config.returnType.toList.map .returns ++
        config.implementation.toList.map (fun lines => .body (lines.map .line)) ++
        config.documentation.toList.map .document) ++
      config.arguments.map .argument
  kind := Call.kind
  commutes := by
    rintro (_ | first | _ | _ | _) (_ | second | _ | _ | _) method apart
    case modifier.modifier =>
      have distinct : first ≠ second := fun same => apart (congrArg Sum.inl same)
      simp only [withModifier, method.modifiers.set_comm distinct]
    all_goals
      first
        | rfl
        | exact absurd rfl apart

theorem foldl_arguments (method : Method) (arguments : List String) :
    (arguments.map .argument).foldl builder.take method =
      { method with arguments := method.arguments ++ arguments } := by
  rw [List.foldl_map]
  exact foldl_grow addArgument (fun list => { method with arguments := list })
    (fun _ _ => rfl) _ _

theorem foldl_modifiers (method : Method) (list : List Modifier) :
    (list.map .modifier).foldl builder.take method =
      { method with
        modifiers := list.foldl (fun modifiers modifier => modifiers.set modifier true)
          method.modifiers } := by
  induction list generalizing method with
  | nil => rfl
  | cons first rest inductionHypothesis =>
      exact inductionHypothesis (method.withModifier first)

theorem make_eq (config : MethodConfig) : builder.make config = ofConfig config := by
  have modified : (config.modifiers.toList.map .modifier).foldl builder.take
      (builder.start config) = { name := config.name, modifiers := config.modifiers } := by
    refine (foldl_modifiers _ _).trans ?_
    exact congrArg (Method.mk config.name none none · [] none none) config.modifiers.ofList_toList
  refine (List.foldl_append ..).trans ((foldl_arguments _ _).trans ?_)
  rw [List.foldl_append, modified]
  rcases config with ⟨name, _ | type, modifiers, arguments, _ | lines, _ | text⟩ <;> rfl

end Method

namespace Constructor

/-- What can be called for on a constructor. -/
inductive Call
  | argument (text : String)
  | initializer (text : String)
  | body (content : Script)
  | document (text : String)

/-- How constructors are built: the arguments and the initializers each in order. -/
def builder : Builder ConstructorConfig Call Nat Constructor where
  start config := .ofName config.name
  take constructor
    | .argument text => constructor.addArgument text
    | .initializer text => constructor.addInitializer text
    | .body content => { constructor with body := some content }
    | .document text => { constructor with documentation := some text }
  calls config :=
    config.initializers.map .initializer ++
      (config.implementation.toList.map (fun lines => .body (lines.map .line)) ++
        config.documentation.toList.map .document) ++
      config.arguments.map .argument
  kind := Call.ctorIdx
  commutes := by
    rintro (_ | _ | _ | _) (_ | _ | _ | _) constructor apart <;>
      first
        | rfl
        | exact absurd rfl apart

theorem foldl_arguments (constructor : Constructor) (arguments : List String) :
    (arguments.map .argument).foldl builder.take constructor =
      { constructor with arguments := constructor.arguments ++ arguments } := by
  rw [List.foldl_map]
  exact foldl_grow addArgument (fun list => { constructor with arguments := list })
    (fun _ _ => rfl) _ _

theorem foldl_initializers (config : ConstructorConfig) :
    (config.initializers.map .initializer).foldl builder.take (builder.start config) =
      { name := config.name, initializers := .known config.initializers } := by
  rw [List.foldl_map]
  exact foldl_grow addInitializer
    (fun list => { name := config.name, initializers := .known list })
    (fun _ _ => rfl) [] _

/-- The configuration gives the constructor nothing that there is no call for. -/
def IsCallable (config : ConstructorConfig) : Prop :=
  config.modifiers = {} ∧ config.returnType = none

theorem make_eq {config : ConstructorConfig} (callable : IsCallable config) :
    builder.make config = ofConfig config := by
  refine (List.foldl_append ..).trans ((foldl_arguments _ _).trans ?_)
  rw [List.foldl_append, foldl_initializers]
  rcases config with ⟨name, arguments, initializers, _ | lines, _ | text, _, _⟩ <;>
    obtain ⟨rfl, rfl⟩ := callable <;> rfl

end Constructor

/-! ## Variables, arrays and enumerations -/

namespace Variable

/-- What can be called for on a variable. -/
inductive Call
  | static
  | const
  | constexpr
  | external
  | value (text : String)
  | document (text : String)

/-- How variables are built: from a name and a type, and the rest at any time. -/
def builder : Builder VariableConfig Call Nat Variable where
  start config := .ofType config.name config.type
  take data
    | .static => { data with isStatic := true }
    | .const => { data with isConst := true }
    | .constexpr => { data with isConstexpr := true }
    | .external => { data with isExtern := true }
    | .value text => { data with value := some text }
    | .document text => { data with documentation := some text }
  calls config :=
    callIf config.isStatic .static ++ callIf config.isConst .const ++
      callIf config.isConstexpr .constexpr ++ callIf config.isExtern .external ++
      config.value.toList.map .value ++ config.documentation.toList.map .document
  kind := Call.ctorIdx
  commutes := by
    rintro (_ | _ | _ | _ | _ | _) (_ | _ | _ | _ | _ | _) data apart <;>
      first
        | rfl
        | exact absurd rfl apart

theorem make_eq (config : VariableConfig) : builder.make config = ofConfig config := by
  rcases config with ⟨name, type, _ | _, _ | _, _ | _, _ | _, _ | value, _ | text⟩ <;> rfl

end Variable

namespace ArrayVariable

/-- What can be called for on an array. -/
inductive Call
  | static
  | const
  | size (count : Nat)
  | item (text : String)
  | document (text : String)

/-- How arrays are built: the items in order, and all else at any time. -/
def builder : Builder ArrayConfig Call Nat ArrayVariable where
  start config := .ofType config.name config.type
  take array
    | .static => { array with isStatic := true }
    | .const => { array with isConst := true }
    | .size count => { array with size := some count }
    | .item text => array.addItem text
    | .document text => { array with documentation := some text }
  calls config :=
    callIf config.isStatic .static ++ callIf config.isConst .const ++
      config.size.toList.map .size ++ config.documentation.toList.map .document ++
      config.items.map .item
  kind := Call.ctorIdx
  commutes := by
    rintro (_ | _ | _ | _ | _) (_ | _ | _ | _ | _) array apart <;>
      first
        | rfl
        | exact absurd rfl apart

theorem foldl_items (array : ArrayVariable) (items : List String) :
    (items.map .item).foldl builder.take array = array.addItems items := by
  rw [List.foldl_map]
  exact foldl_grow addItem (fun list => { array with items := list })
    (fun _ _ => rfl) _ _

theorem make_eq (config : ArrayConfig) : builder.make config = ofConfig config := by
  refine (List.foldl_append ..).trans ((foldl_items _ _).trans ?_)
  rcases config with ⟨name, type, _ | _, _ | _, _ | size, items, _ | text⟩ <;> rfl

end ArrayVariable

namespace Enumeration

/-- What can be called for on an enumeration. -/
inductive Call
  | mark (text : String)
  | scoped
  | item (text : String)
  | document (text : String)

/-- How enumerations are built: the items in order, and all else at any time. -/
def builder : Builder EnumConfig Call Nat Enumeration where
  start config := .ofName config.name
  take enumeration
    | .mark text => { enumeration with mark := text }
    | .scoped => { enumeration with isScoped := true }
    | .item text => enumeration.addItem text
    | .document text => { enumeration with documentation := some text }
  calls config :=
    config.mark.toList.map .mark ++ callIf config.isScoped .scoped ++
      config.documentation.toList.map .document ++ config.items.map .item
  kind := Call.ctorIdx
  commutes := by
    rintro (_ | _ | _ | _) (_ | _ | _ | _) enumeration apart <;>
      first
        | rfl
        | exact absurd rfl apart

theorem foldl_items (enumeration : Enumeration) (items : List String) :
    (items.map .item).foldl builder.take enumeration = enumeration.addItems items := by
  rw [List.foldl_map]
  exact foldl_grow addItem (fun list => { enumeration with items := list })
    (fun _ _ => rfl) _ _

theorem make_eq (config : EnumConfig) : builder.make config = ofConfig config := by
  refine (List.foldl_append ..).trans ((foldl_items _ _).trans ?_)
  rcases config with ⟨name, _ | mark, _ | _, items, _ | text⟩ <;> rfl

end Enumeration

/-! ## The heads of classes -/

namespace Class.Head

/-- What can be called for on a class, apart from its members. -/
inductive Call
  | struct
  | inherits (base : String)
  | document (text : String)

/-- How the head of a class is built. -/
def builder : Builder ClassOptions Call Nat Head where
  start _ := {}
  take head
    | .struct => { head with isStruct := true }
    | .inherits base => { head with base := some base }
    | .document text => { head with documentation := some text }
  calls options :=
    callIf options.isStruct .struct ++ options.base.toList.map .inherits ++
      options.documentation.toList.map .document
  kind := Call.ctorIdx
  commutes := by
    rintro (_ | _ | _) (_ | _ | _) head apart <;>
      first
        | rfl
        | exact absurd rfl apart

theorem make_eq (options : ClassOptions) :
    builder.make options = ⟨options.isStruct, options.base, options.documentation⟩ := by
  rcases options with ⟨name, _ | _, _ | base, _ | text⟩ <;> rfl

end Class.Head

end CppModel
