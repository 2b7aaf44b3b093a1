import CppModel.Proofs.Class.Likeness
import CppModel.Proofs.Documentation.Apart
import CppModel.Proofs.Layout.Members
import CppModel.Proofs.Source.Entries

/-!
# Removing documentation

Some elements of a tree may lose their documentation while others keep it, at any depth.
Nothing else of the tree changes, so the check does not see it, and the elements that are
defined in the source stay the same ones in the same order.  Since documentation never fails,
every form ends as before, in success or in the same error.
-/

namespace CppModel

/-- The item, or the item without documentation. -/
def MayLose {Item : Type} (bare : Item → Item) (first second : Item) : Prop :=
  second = first ∨ second = bare first

/-- Documentation is removed from the class or from some of its members, and nothing else. -/
structure ClassParts.LosesDocumentation (first second : ClassParts) : Prop where
  scope : second.scope = first.scope
  name : second.name = first.name
  isStruct : second.isStruct = first.isStruct
  base : second.base = first.base
  documentation : second.documentation = first.documentation ∨ second.documentation = none
  enumerations : List.Forall₂ (MayLose Enumeration.bare) first.enumerations second.enumerations
  functions : List.Forall₂ (MayLose MemberFunction.bare) first.functions second.functions
  dataMembers : List.Forall₂ (MayLose Variable.bare) first.dataMembers second.dataMembers
  arrays : List.Forall₂ (MayLose ArrayVariable.bare) first.arrays second.arrays

/-- Documentation is removed from some classes of the tree or from some of their members. -/
inductive Class.LosesDocumentation : Class → Class → Prop
  | intro {parts otherParts : ClassParts} {nested otherNested : List Class} :
      parts.LosesDocumentation otherParts →
      List.Forall₂ Class.LosesDocumentation nested otherNested →
      Class.LosesDocumentation ⟨parts, nested⟩ ⟨otherParts, otherNested⟩

/-- The element has no members, and may lose its documentation. -/
structure Element.LosesAlone (first second : Element) : Prop where
  isAlone : first.isClass = false
  mayLose : MayLose bare first second

/-- Documentation is removed from an element without members, or from elements of a class. -/
inductive Element.LosesDocumentation : Element → Element → Prop
  | alone {first second : Element} : first.LosesAlone second → LosesDocumentation first second
  | inClass {owner other : Class} :
      owner.LosesDocumentation other → LosesDocumentation (.classType owner) (.classType other)

namespace MayLose

variable {Item : Type} {bare : Item → Item} {first second : Item}

/-- What does not read the documentation stays the same. -/
theorem eq {Content : Type} (content : Item → Content) (loses : MayLose bare first second)
    (same : ∀ item, content (bare item) = content item) : content first = content second := by
  rcases loses with rfl | rfl
  · rfl
  · exact (same first).symm

/-- Items of a kind lose their documentation as elements of the kind. -/
theorem forall₂_ofKind {items others : List Item} (kind : Item → Element)
    (alone : ∀ item, (kind item).isClass = false)
    (sameBare : ∀ item, (kind item).bare = kind (bare item))
    (lose : List.Forall₂ (MayLose bare) items others) :
    List.Forall₂ Element.LosesAlone (items.map kind) (others.map kind) := by
  refine List.rel_map (fun first second loses => ⟨alone first, ?_⟩) lose
  rcases loses with rfl | rfl
  · exact .inl rfl
  · exact .inr (sameBare first).symm

end MayLose

open MayLose (forall₂_ofKind)

/-! ## Classes -/

namespace ClassParts.LosesDocumentation

variable {first second : ClassParts} (loses : first.LosesDocumentation second)

include loses

theorem validate_eq (context : Context) : first.validate context = second.validate context := by
  have functions := validateAll_eq_of_forall₂ loses.functions fun _ _ lost =>
    lost.eq (·.validate context) fun function => (Element.member function).validate_bare context
  have dataMembers := validateAll_eq_of_forall₂ loses.dataMembers fun _ _ lost =>
    lost.eq Variable.validate fun _ => rfl
  have arrays := validateAll_eq_of_forall₂ loses.arrays fun _ _ lost =>
    lost.eq ArrayVariable.validate fun _ => rfl
  rw [validate, validate, functions, dataMembers, arrays]

theorem head_eq : first.head = second.head := by
  rw [head, head, loses.name, loses.isStruct, loses.base]

/-- The members that are defined outside of the class are the same ones. -/
theorem defined : List.Forall₂ Element.LosesAlone first.defined second.defined := by
  have data := forall₂_filter loses.dataMembers fun _ _ lost =>
    lost.eq (fun data => data.isStatic && !data.isConstexpr) fun _ => rfl
  have arrays := forall₂_filter loses.arrays fun _ _ lost =>
    lost.eq (·.isStatic) fun _ => rfl
  have functions := forall₂_filter loses.functions fun _ _ lost =>
    lost.eq (·.isDefinedOutside) fun function => by cases function <;> rfl
  exact List.rel_append
    (List.rel_append (forall₂_ofKind .data (fun _ => rfl) (fun _ => rfl) data)
      (forall₂_ofKind .array (fun _ => rfl) (fun _ => rfl) arrays))
    (forall₂_ofKind .member (fun _ => rfl) (fun _ => rfl) functions)

/-- The members, nested classes apart. -/
theorem elements : List.Forall₂ Element.LosesAlone first.elements second.elements :=
  List.rel_append
    (List.rel_append
      (List.rel_append
        (forall₂_ofKind .enumeration (fun _ => rfl) (fun _ => rfl) loses.enumerations)
        (forall₂_ofKind .data (fun _ => rfl) (fun _ => rfl) loses.dataMembers))
      (forall₂_ofKind .array (fun _ => rfl) (fun _ => rfl) loses.arrays))
    (forall₂_ofKind .member (fun _ => rfl) (fun _ => rfl) loses.functions)

end ClassParts.LosesDocumentation

namespace Class.LosesDocumentation

variable {first second : Class}

theorem parts (loses : first.LosesDocumentation second) :
    first.parts.LosesDocumentation second.parts := by
  cases loses with
  | intro parts _ => exact parts

theorem nested (loses : first.LosesDocumentation second) :
    List.Forall₂ LosesDocumentation first.nested second.nested := by
  cases loses with
  | intro _ nested => exact nested

/-- Members are related if they lose their documentation alone, or as classes that are related. -/
theorem forall₂_members (loses : first.LosesDocumentation second)
    (related : Element → Element → Prop)
    (alone : ∀ first second : Element, first.LosesAlone second → related first second)
    (classes : List.Forall₂ (fun inner other => related (.classType inner) (.classType other))
      first.nested second.nested) :
    List.Forall₂ related first.publicMembers second.publicMembers ∧
      List.Forall₂ related first.privateMembers second.privateMembers := by
  obtain ⟨_, _, _, _, _, enumerations, functions, dataMembers, arrays⟩ := loses.parts
  constructor
  · exact List.rel_append
      (List.rel_append
        ((forall₂_ofKind .enumeration (fun _ => rfl) (fun _ => rfl) enumerations).imp alone)
        (List.forall₂_map_left_iff.mpr (List.forall₂_map_right_iff.mpr classes)))
      ((forall₂_ofKind .member (fun _ => rfl) (fun _ => rfl) functions).imp alone)
  · exact List.rel_append
      ((forall₂_ofKind .data (fun _ => rfl) (fun _ => rfl) dataMembers).imp alone)
      ((forall₂_ofKind .array (fun _ => rfl) (fun _ => rfl) arrays).imp alone)

theorem validate_eq (loses : first.LosesDocumentation second) (context : Context) :
    first.validate context = second.validate context := by
  refine induction_on_related (motive := fun first second =>
    first.validate context = second.validate context) loses nested
    fun first second loses inductionHypothesis => ?_
  obtain ⟨parts, _⟩ := loses
  rw [validate, validate, validateNested_eq_validateAll, validateNested_eq_validateAll,
    validateAll_eq_of_forall₂ inductionHypothesis fun _ _ same => same, parts.validate_eq context]

/-- The elements of the tree lose documentation one by one. -/
theorem elements (loses : first.LosesDocumentation second) :
    List.Forall₂ Element.LosesDocumentation first.elements second.elements := by
  refine induction_on_related (motive := fun first second =>
    List.Forall₂ Element.LosesDocumentation first.elements second.elements) loses nested
    fun first second loses inductionHypothesis => ?_
  rw [elements_eq, elements_eq]
  exact .cons (.inClass loses) (List.rel_append (loses.parts.elements.imp fun _ _ => .alone)
    (List.rel_flatMap inductionHypothesis fun _ _ same => same))

/-- The members that are defined in the source are the same ones. -/
theorem defined (loses : first.LosesDocumentation second) :
    List.Forall₂ Element.LosesAlone first.defined second.defined := by
  refine induction_on_related (motive := fun first second =>
    List.Forall₂ Element.LosesAlone first.defined second.defined) loses nested
    fun first second loses inductionHypothesis => ?_
  rw [defined_eq, defined_eq]
  exact List.rel_append loses.parts.defined
    (List.rel_flatMap inductionHypothesis fun _ _ same => same)

end Class.LosesDocumentation

/-! ## Bodies and outcomes -/

theorem Element.bodies_bare (element : Element) :
    element.bare.withMembers.map body = element.withMembers.map body := by
  rcases element with _ | (_ | _) | _ | _ | _ | ⟨parts, nested⟩
  case classType =>
    rw [bare, withMembers, withMembers, Class.elements_eq, Class.elements_eq]
    rfl
  all_goals rfl

/-- What does not read the documentation of an element without members stays the same. -/
theorem Element.LosesAlone.eq {Content : Type} {first second : Element}
    (loses : first.LosesAlone second) (content : Element → Content)
    (same : ∀ element, element.isClass = false → content element.bare = content element) :
    content first = content second := by
  obtain ⟨isAlone, rfl | rfl⟩ := loses
  · rfl
  · exact (same first isAlone).symm

theorem Element.LosesAlone.isClass_eq_false {first second : Element}
    (loses : first.LosesAlone second) : second.isClass = false :=
  (loses.eq Element.isClass fun element _ => element.isClass_bare).symm.trans loses.isAlone

theorem Element.LosesAlone.failure?_rendering {first second : Element}
    (loses : first.LosesAlone second) (context : Context) (form : Form) :
    failure? (first.rendering context form) = failure? (second.rendering context form) :=
  loses.eq (fun element => failure? (element.rendering context form)) fun _ isAlone =>
    (Element.documents_rendering isAlone context form).failure?_eq.symm

namespace Class

/-- A class is declared unless its check refuses it. -/
theorem failure?_declaration_eq_validate (context : Context) (owner : Class) :
    failure? (owner.declaration context) = failure? (owner.validate context) := by
  cases checked : owner.validate context with
  | error error =>
      rw [owner.heeds_declaration context error checked, failure?_error, failure?_error]
  | ok passed => rw [owner.failure?_declaration context checked, failure?_ok]

variable {first second : Class} (loses : first.LosesDocumentation second)

include loses

theorem LosesDocumentation.failure?_declaration (context : Context) :
    failure? (first.declaration context) = failure? (second.declaration context) := by
  rw [failure?_declaration_eq_validate, failure?_declaration_eq_validate, loses.validate_eq]

theorem LosesDocumentation.failure?_definition (context : Context) :
    failure? (first.definition context) = failure? (second.definition context) := by
  have members := map_eq_of_forall₂ loses.defined fun _ _ lost =>
    lost.failure?_rendering context .definition
  -- The first failure is found among the members that are defined, in the same order.
  have firsts : ∀ owner : Class, (owner.definitions context).findSome? failure? =
      (owner.defined.map fun element => failure? (element.definition context)).findSome? id := by
    intro owner
    rw [definitions_eq_map_defined, List.findSome?_map, List.findSome?_map]
    rfl
  simp only [Element.rendering] at members
  rw [definition, definition, failure?_then, failure?_then, Rendering.failure?_paragraphs,
    Rendering.failure?_paragraphs, firsts, firsts, members, loses.validate_eq]

end Class

namespace Element.LosesDocumentation

variable {first second : Element}

theorem validate_eq (loses : first.LosesDocumentation second) (context : Context) :
    first.validate context = second.validate context := by
  cases loses with
  | alone loses =>
      exact loses.eq (·.validate context) fun element _ => element.validate_bare context
  | inClass loses => exact loses.validate_eq context

theorem body_eq (loses : first.LosesDocumentation second) : first.body = second.body := by
  cases loses with
  | alone loses => exact loses.eq body fun element _ => element.body_bare
  | inClass loses => rfl

/-- The bodies stay the same ones, those of members included. -/
theorem restoresBeyond (loses : first.LosesDocumentation second) {level : Nat}
    (restores : first.RestoresBeyond level) : second.RestoresBeyond level := by
  refine (restoresBeyond_congr ?_).mp restores
  cases loses with
  | alone loses => exact loses.eq (·.withMembers.map body) fun element _ => element.bodies_bare
  | inClass loses => exact map_eq_of_forall₂ loses.elements fun _ _ lost => lost.body_eq

/-- Every form ends as before. -/
theorem failure?_rendering (loses : first.LosesDocumentation second) (context : Context)
    (form : Form) :
    failure? (first.rendering context form) = failure? (second.rendering context form) := by
  cases loses with
  | alone loses => exact loses.failure?_rendering context form
  | inClass loses =>
      cases form with
      | declaration => exact loses.failure?_declaration context
      | definition => exact loses.failure?_definition context
      | own =>
          change failure? (Rendering.paragraphs _) = failure? (Rendering.paragraphs _)
          rw [Rendering.failure?_paragraphs, Rendering.failure?_paragraphs, List.findSome?_cons,
            List.findSome?_cons, List.findSome?_cons, List.findSome?_cons,
            loses.failure?_declaration, loses.failure?_definition]

end Element.LosesDocumentation

end CppModel
