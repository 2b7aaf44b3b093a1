import CppModel.Proofs.Pieces.Classes
import CppModel.Proofs.Procedure.Units
import CppModel.Proofs.Scope.Outlook
import CppModel.Proofs.Validation.Classes

/-!
# Classes that read alike

An element reads its link only through what is seen from it.  So a member that stands under
another link, possibly in another forest, is checked and written as before if the same is
seen from the two links.

Two classes resemble each other if their members differ in this way only, in every class of
the two trees.  Such classes read alike, though they own other scopes: they are refused with
the same error, or written to the same text in every form.
-/

namespace CppModel

open Scope

/-- In their contexts, the elements are checked alike and rendered alike in every form. -/
structure Element.ReadsAlike (context other : Context) (first second : Element) : Prop where
  validate : first.validate context = second.validate other
  rendering : ∀ form, first.rendering context form = second.rendering other form

/-- The item stands under another link in another forest, where it sees the same. -/
def Relinked {Item : Type} (link : Item → Link) (withLink : Link → Item → Item)
    (forest other : Forest) (first second : Item) : Prop :=
  ∃ target, forest.SeesAlike (link first) other target ∧ second = withLink target first

namespace Relinked

variable {Item : Type} {link : Item → Link} {withLink : Link → Item → Item}
  {forest other : Forest}

/-- Items that are put under links from which the same is seen. -/
theorem of_seesAlike {target otherTarget : Link}
    (alike : forest.SeesAlike target other otherTarget)
    (put : ∀ target item, link (withLink target item) = target)
    (again : ∀ target first item, withLink target (withLink first item) = withLink target item)
    (item : Item) :
    Relinked link withLink forest other (withLink target item) (withLink otherTarget item) := by
  refine ⟨otherTarget, ?_, (again otherTarget target item).symm⟩
  rw [put]
  exact alike

/-- An item that stays under its link, from which the same is seen in another forest. -/
theorem of_stays (item : Item) (alike : forest.SeesAlike (link item) other (link item))
    (stays : withLink (link item) item = item) :
    Relinked link withLink forest other item item :=
  ⟨link item, alike, stays.symm⟩

end Relinked

section Members

variable (forest other : Forest)

/-- The methods or constructors differ in their links only, and see the same from them. -/
def MemberFunction.Resembles : MemberFunction → MemberFunction → Prop :=
  Relinked link withLink forest other

/-- The variables differ in their links only, and see the same from them. -/
def Variable.Resembles : Variable → Variable → Prop :=
  Relinked link (fun link data => { data with link := link }) forest other

/-- The arrays differ in their links only, and see the same from them. -/
def ArrayVariable.Resembles : ArrayVariable → ArrayVariable → Prop :=
  Relinked link (fun link array => { array with link := link }) forest other

/-- The enumerations differ in their links only, and see the same from them. -/
def Enumeration.Resembles : Enumeration → Enumeration → Prop :=
  Relinked link (fun link enumeration => { enumeration with link := link }) forest other

end Members

section Reading

variable {forest other : Forest} (produced : Nat → List String)

theorem Enumeration.Resembles.readsAlike {first second : Enumeration}
    (resembles : first.Resembles forest other second) :
    Element.ReadsAlike ⟨forest, produced⟩ ⟨other, produced⟩
      (.enumeration first) (.enumeration second) := by
  rcases resembles with ⟨target, _, rfl⟩
  exact ⟨rfl, fun form => by cases form <;> rfl⟩

theorem Variable.Resembles.readsAlike {first second : Variable}
    (resembles : first.Resembles forest other second) :
    Element.ReadsAlike ⟨forest, produced⟩ ⟨other, produced⟩ (.data first) (.data second) := by
  rcases resembles with ⟨target, alike, rfl⟩
  refine ⟨rfl, fun form => ?_⟩
  cases form with
  | declaration =>
      simp only [Element.rendering, Element.declaration, Variable.declaration, alike.isAttached_eq]
      rfl
  | definition =>
      simp only [Element.rendering, Element.definition, Variable.definition, Variable.outerHead,
        Variable.fullName, alike.isAttached_eq, alike.qualifiedName_eq, alike.resolveType_eq]
      rfl
  | own => rfl

theorem ArrayVariable.Resembles.readsAlike {first second : ArrayVariable}
    (resembles : first.Resembles forest other second) :
    Element.ReadsAlike ⟨forest, produced⟩ ⟨other, produced⟩ (.array first) (.array second) := by
  rcases resembles with ⟨target, alike, rfl⟩
  refine ⟨rfl, fun form => ?_⟩
  cases form with
  | declaration =>
      simp only [Element.rendering, Element.declaration, ArrayVariable.declaration,
        alike.isAttached_eq]
      rfl
  | definition =>
      simp only [Element.rendering, Element.definition, ArrayVariable.definition,
        ArrayVariable.fullName, alike.isAttached_eq, alike.qualifiedName_eq]
      rfl
  | own => rfl

theorem Method.readsAlike (method : Method) {target : Link}
    (alike : forest.SeesAlike method.link other target) :
    Element.ReadsAlike ⟨forest, produced⟩ ⟨other, produced⟩
      (.member (.method method)) (.member (.method { method with link := target })) := by
  have sameCheck : method.validate ⟨forest, produced⟩ =
      { method with link := target }.validate ⟨other, produced⟩ := by
    simp only [Method.validate, Method.checkLink, alike.isAttached_eq]
    rfl
  have sameHeader : method.outerHeader ⟨forest, produced⟩ =
      { method with link := target }.outerHeader ⟨other, produced⟩ := by
    simp only [Method.outerHeader, Method.outerReturnType, Method.fullName,
      alike.qualifiedName_eq, alike.resolveType_eq]
  refine ⟨sameCheck, fun form => ?_⟩
  cases form with
  | declaration =>
      simp only [Element.rendering, Element.declaration, MemberFunction.declaration,
        Method.declaration, Method.render,
        sameCheck]
      rfl
  | definition =>
      simp only [Element.rendering, Element.definition, MemberFunction.definition,
        Method.definition, sameCheck,
        sameHeader]
      rfl
  | own =>
      simp only [Element.rendering, Element.render, Method.render, sameCheck]
      rfl

theorem Constructor.readsAlike (constructor : Constructor) {target : Link}
    (alike : forest.SeesAlike constructor.link other target) :
    Element.ReadsAlike ⟨forest, produced⟩ ⟨other, produced⟩
      (.member (.constructor constructor))
      (.member (.constructor { constructor with link := target })) := by
  have sameCheck : constructor.validate ⟨forest, produced⟩ =
      { constructor with link := target }.validate ⟨other, produced⟩ := by
    simp only [Constructor.validate, Method.checkLink, alike.isAttached_eq]
    rfl
  have sameHeader (name : String) : constructor.headerAs ⟨forest, produced⟩ name =
      { constructor with link := target }.headerAs ⟨other, produced⟩ name := by
    rcases constructor with ⟨method, known | deferred⟩ <;> rfl
  have sameName : constructor.fullName ⟨forest, produced⟩ =
      { constructor with link := target }.fullName ⟨other, produced⟩ :=
    alike.qualifiedName_eq _ _
  refine ⟨sameCheck, fun form => ?_⟩
  cases form with
  | declaration =>
      simp only [Element.rendering, Element.declaration, MemberFunction.declaration,
        Constructor.declaration, sameCheck]
  | definition =>
      simp only [Element.rendering, Element.definition, MemberFunction.definition,
        Constructor.definition, sameCheck,
        sameHeader, sameName]
      rfl
  | own =>
      simp only [Element.rendering, Element.render, Constructor.render, sameCheck, sameHeader]
      rfl

theorem MemberFunction.Resembles.readsAlike {first second : MemberFunction}
    (resembles : first.Resembles forest other second) :
    Element.ReadsAlike ⟨forest, produced⟩ ⟨other, produced⟩ (.member first) (.member second) := by
  rcases resembles with ⟨target, alike, rfl⟩
  cases first with
  | method content => exact content.readsAlike produced alike
  | constructor content => exact content.readsAlike produced alike

theorem Variable.Resembles.needsDefinition_eq {first second : Variable}
    (resembles : first.Resembles forest other second) :
    first.needsDefinition = second.needsDefinition := by
  rcases resembles with ⟨target, _, rfl⟩
  rfl

theorem ArrayVariable.Resembles.needsDefinition_eq {first second : ArrayVariable}
    (resembles : first.Resembles forest other second) :
    first.needsDefinition = second.needsDefinition := by
  rcases resembles with ⟨target, _, rfl⟩
  rfl

theorem MemberFunction.Resembles.needsDefinition_eq {first second : MemberFunction}
    (resembles : first.Resembles forest other second) :
    first.needsDefinition = second.needsDefinition := by
  rcases resembles with ⟨target, _, rfl⟩
  cases first <;> rfl

end Reading

/-! ## Checking items that read alike -/

theorem validateAll_eq_of_forall₂ {First Second : Type} {related : First → Second → Prop}
    {items : List First} {others : List Second} (alike : List.Forall₂ related items others)
    {check : First → Except Error Unit} {otherCheck : Second → Except Error Unit}
    (agree : ∀ item other, related item other → check item = otherCheck other) :
    validateAll check items = validateAll otherCheck others := by
  induction alike with
  | nil => rfl
  | @cons item other items others isRelated _ inductionHypothesis =>
      rw [validateAll, validateAll, agree item other isRelated, inductionHypothesis]

/-! ## Classes -/

/-- The members resemble each other, and nothing but the scopes of the classes differs
besides. -/
structure ClassParts.Resembles (forest other : Forest) (first second : ClassParts) : Prop where
  name : first.name = second.name
  isStruct : first.isStruct = second.isStruct
  base : first.base = second.base
  documentation : first.documentation = second.documentation
  enumerations : List.Forall₂ (Enumeration.Resembles forest other) first.enumerations
    second.enumerations
  functions : List.Forall₂ (MemberFunction.Resembles forest other) first.functions
    second.functions
  dataMembers : List.Forall₂ (Variable.Resembles forest other) first.dataMembers
    second.dataMembers
  arrays : List.Forall₂ (ArrayVariable.Resembles forest other) first.arrays second.arrays

/-- The classes resemble each other in their own members, and so do the classes that are
nested in them, in order. -/
inductive Class.Resembles (forest other : Forest) : Class → Class → Prop
  | intro {parts otherParts : ClassParts} {nested otherNested : List Class} :
      parts.Resembles forest other otherParts →
      List.Forall₂ (Class.Resembles forest other) nested otherNested →
      Class.Resembles forest other ⟨parts, nested⟩ ⟨otherParts, otherNested⟩

namespace ClassParts.Resembles

variable {forest other : Forest} (produced : Nat → List String) {first second : ClassParts}
  (resembles : first.Resembles forest other second)

include resembles

theorem validate_eq :
    first.validate ⟨forest, produced⟩ = second.validate ⟨other, produced⟩ := by
  have functions := validateAll_eq_of_forall₂ resembles.functions fun _ _ same =>
    (same.readsAlike produced).validate
  have dataMembers := validateAll_eq_of_forall₂ resembles.dataMembers fun _ _ same =>
    (same.readsAlike produced).validate
  have arrays := validateAll_eq_of_forall₂ resembles.arrays fun _ _ same =>
    (same.readsAlike produced).validate
  simp only [Element.validate] at functions dataMembers arrays
  rw [validate, validate, functions, dataMembers, arrays]

theorem header_eq : first.header = second.header := by
  rw [header, header, resembles.isStruct, resembles.base, resembles.name]

/-- The members that are not functions are declared alike. -/
theorem privateDeclarations_eq :
    first.privateDeclarations ⟨forest, produced⟩ =
      second.privateDeclarations ⟨other, produced⟩ := by
  have dataMembers := map_eq_of_forall₂ resembles.dataMembers fun _ _ same =>
    (same.readsAlike produced).rendering .declaration
  have arrays := map_eq_of_forall₂ resembles.arrays fun _ _ same =>
    (same.readsAlike produced).rendering .declaration
  simp only [Element.rendering, Element.declaration] at dataMembers arrays
  rw [privateDeclarations, privateDeclarations, dataMembers, arrays]

theorem definitions_eq :
    first.definitions ⟨forest, produced⟩ = second.definitions ⟨other, produced⟩ := by
  have dataMembers := map_filter_eq_of_forall₂ resembles.dataMembers
    (fun _ _ same => same.needsDefinition_eq) fun _ _ same =>
      (same.readsAlike produced).rendering .definition
  have arrays := map_filter_eq_of_forall₂ resembles.arrays
    (fun _ _ same => same.needsDefinition_eq) fun _ _ same =>
      (same.readsAlike produced).rendering .definition
  have functions := map_filter_eq_of_forall₂ resembles.functions
    (fun _ _ same => same.needsDefinition_eq) fun _ _ same =>
      (same.readsAlike produced).rendering .definition
  simp only [Element.rendering, Element.definition] at dataMembers arrays functions
  rw [definitions, definitions, dataMembers, arrays, functions]

end ClassParts.Resembles

namespace Class.Resembles

variable {forest other : Forest} {first second : Class}

theorem parts (resembles : first.Resembles forest other second) :
    first.parts.Resembles forest other second.parts := by
  cases resembles with
  | intro parts _ => exact parts

theorem nested (resembles : first.Resembles forest other second) :
    List.Forall₂ (Resembles forest other) first.nested second.nested := by
  cases resembles with
  | intro _ nested => exact nested

/-- A relation holds between classes that resemble each other, if it holds as soon as it
holds between their nested classes, in order. -/
@[elab_as_elim]
theorem induction_on {motive : Class → Class → Prop}
    (resembles : first.Resembles forest other second)
    (step : ∀ first second, Resembles forest other first second →
      List.Forall₂ motive first.nested second.nested → motive first second) :
    motive first second :=
  induction_on_related (motive := motive) resembles nested step

variable (produced : Nat → List String) (resembles : first.Resembles forest other second)

include resembles

theorem validate_eq :
    first.validate ⟨forest, produced⟩ = second.validate ⟨other, produced⟩ := by
  refine resembles.induction_on fun first second resembles inductionHypothesis => ?_
  rcases resembles with ⟨parts, _⟩
  rw [validate, validate, validateNested_eq_validateAll, validateNested_eq_validateAll,
    validateAll_eq_of_forall₂ inductionHypothesis fun _ _ same => same,
    parts.validate_eq produced]

theorem definitions_eq :
    first.definitions ⟨forest, produced⟩ = second.definitions ⟨other, produced⟩ := by
  refine resembles.induction_on fun first second resembles inductionHypothesis => ?_
  have nested := map_eq_of_forall₂ inductionHypothesis fun _ _ same => same
  rw [Class.definitions_eq, Class.definitions_eq, resembles.parts.definitions_eq produced,
    List.flatMap_def, List.flatMap_def, nested]

theorem frame_eq (publicPart privatePart : Script) :
    first.frame publicPart privatePart = second.frame publicPart privatePart := by
  have samePublic : first.hasPublic = second.hasPublic := by
    rw [hasPublic, hasPublic, isEmpty_eq_of_forall₂ resembles.parts.enumerations,
      isEmpty_eq_of_forall₂ resembles.nested, isEmpty_eq_of_forall₂ resembles.parts.functions]
  have samePrivate : first.hasPrivate = second.hasPrivate := by
    rw [hasPrivate, hasPrivate, isEmpty_eq_of_forall₂ resembles.parts.dataMembers,
      isEmpty_eq_of_forall₂ resembles.parts.arrays]
  simp only [frame, body, samePublic, samePrivate, resembles.parts.documentation,
    resembles.parts.header_eq, resembles.parts.isStruct]

theorem declaration_eq :
    first.declaration ⟨forest, produced⟩ = second.declaration ⟨other, produced⟩ := by
  refine resembles.induction_on fun first second resembles inductionHypothesis => ?_
  have enumerations := map_eq_of_forall₂ resembles.parts.enumerations fun _ _ same =>
    (same.readsAlike produced).rendering .declaration
  have nested := map_eq_of_forall₂ inductionHypothesis fun _ _ same => same
  have functions := map_eq_of_forall₂ resembles.parts.functions fun _ _ same =>
    (same.readsAlike produced).rendering .declaration
  have samePrivate := resembles.parts.privateDeclarations_eq produced
  simp only [Element.rendering, Element.declaration] at enumerations functions
  rw [Class.declaration_eq, Class.declaration_eq, resembles.validate_eq produced,
    publicDeclarations_eq, publicDeclarations_eq, enumerations, nested, functions,
    privateDeclarations, privateDeclarations, samePrivate]
  simp only [resembles.frame_eq]

/-- Classes that resemble each other read alike. -/
theorem readsAlike :
    Element.ReadsAlike ⟨forest, produced⟩ ⟨other, produced⟩ (.classType first)
      (.classType second) := by
  have sameDefinition :
      first.definition ⟨forest, produced⟩ = second.definition ⟨other, produced⟩ := by
    rw [definition, definition, resembles.validate_eq produced, resembles.definitions_eq produced]
  refine ⟨resembles.validate_eq produced, fun form => ?_⟩
  cases form with
  | declaration => exact resembles.declaration_eq produced
  | definition => exact sameDefinition
  | own =>
      change Class.render _ _ = Class.render _ _
      rw [render, render, resembles.declaration_eq produced, sameDefinition]

end Class.Resembles

/-! ## What reads alike is written alike -/

theorem Element.ReadsAlike.runOn_write {context other : Context} {first second : Element}
    (alike : first.ReadsAlike context other second) (form : Form) (sink : Sink) :
    (first.write context form).runOn sink = (second.write other form).runOn sink := by
  rw [carriesOut_write, carriesOut_write, alike.rendering]

end CppModel
