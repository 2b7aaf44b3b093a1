import CppModel.Proofs.Documentation.Fragments

/-!
# What is written splits into fragments

The fragments of an element make up what it writes, if its bodies restore their level.  For a
declaration this is an induction on its members: each is laid out one level further in, and the
layout begins with its note.  In the source there is a group of fragments for each member that
is defined, and a group is empty where the definition is.

In either case each note stands directly in front of the form that it belongs to.  A valid
declaration has one note of everything that it contains, and definitions have one of each
definition that is not empty.
-/

namespace CppModel

open Procedure
open Rendering (bind_eq_ok_iff all_eq_ok_iff)
open Fragment

variable {context : Context} {place : Place} {element : Element} {owner : Class}

/-! ## Declarations -/

theorem Element.layout_ne_empty (context : Context) (place : Place) (element : Element) :
    element.layout context place ≠ "" := by
  have line (front text : String) : front ++ place.line text ≠ "" := by
    rw [Place.line, ← String.append_assoc]
    exact Script.append_newline_ne_empty _
  have block (front header closing inside : String) :
      front ++ place.block header closing inside ≠ "" := by
    rw [Place.block, ← String.append_assoc]
    exact line _ _
  have function (front header : String) (content : Option Script) :
      front ++ place.function header content ≠ "" := by
    cases content with
    | none => exact line _ _
    | some content => exact block _ _ _ _
  cases element with
  | function content => exact function _ _ _
  | member content =>
      cases content with
      | method content => exact function _ _ _
      | constructor content => exact function _ _ _
  | data content => exact line _ _
  | array content => exact line _ _
  | enumeration content => exact block _ _ _ _
  | classType content =>
      rw [layout, Class.layout_eq]
      exact block _ _ _ _

/-- Without its documentation, a valid element is declared in the layout of the rest. -/
theorem bareText_declaration (valid : element.validate context = .ok ())
    (restores : element.RestoresBeyond place.level) :
    bareText context .declaration place element = element.bare.layout context place := by
  have bareValid := (element.validate_bare context).trans valid
  have bareRestores := (Element.restoresBeyond_congr element.bodies_bare).mpr restores
  obtain ⟨script, rendered, prints⟩ := Element.prints_declaration bareValid bareRestores
  rw [bareText, (element.bare.carriesOut_write context .declaration).textAt_eq, Element.rendering,
    rendered]
  exact prints.textAt_eq

/-- The fragments of a valid element make up its layout. -/
theorem join_ofDeclaration (valid : element.validate context = .ok ())
    (restores : element.RestoresBeyond place.level) :
    join (ofDeclaration context place element) = element.layout context place := by
  refine Element.induction_on_valid (motive := fun place element =>
    join (ofDeclaration context place element) = element.layout context place)
    ?alone ?inClass valid restores
  case alone =>
    intro place element isAlone valid restores
    obtain ⟨script, rendered, prints⟩ := Element.prints_declaration valid restores
    have shown : join (ofAlone context .declaration place element) = script.textAt place.sink :=
      join_ofAlone isAlone rendered
    rw [ofDeclaration_of_isAlone isAlone, shown, prints.textAt_eq]
  case inClass =>
    intro place owner _ _ laidOut
    rw [ofDeclaration, ofClass_eq, join_cons, join_ofBlock laidOut, Element.layout,
      Class.layout_eq]
    rfl

/-- The block of a valid class is all that the class declares without its documentation. -/
theorem join_ofBlock_eq_bareText (valid : owner.validate context = .ok ())
    (restores : (Element.classType owner).RestoresBeyond place.level) :
    join (ofBlock context place owner) =
      bareText context .declaration place (.classType owner) := by
  have laidOut : ∀ member ∈ owner.publicMembers ++ owner.privateMembers,
      join (ofDeclaration context place.inner member) = member.layout context place.inner :=
    fun member isMember => join_ofDeclaration (Class.validate_of_mem_members valid isMember)
      (restores.ofMember isMember)
  have isValid : (Element.classType owner).validate context = .ok () := valid
  rw [join_ofBlock laidOut, bareText_declaration isValid restores]
  cases owner with
  | mk parts nested =>
      rw [Element.bare, Element.layout, Class.layout_eq]
      exact (String.empty_append).symm

theorem leads_ofDeclaration (valid : element.validate context = .ok ())
    (restores : element.RestoresBeyond place.level) :
    Leads context (ofDeclaration context place element) := by
  refine Element.induction_on_valid (motive := fun place element =>
    Leads context (ofDeclaration context place element)) ?alone ?inClass valid restores
  case alone =>
    intro place element isAlone _ _
    rw [ofDeclaration_of_isAlone isAlone]
    exact leads_ofAlone context .declaration place element
  case inClass =>
    intro place owner valid restores inductionHypothesis
    have inside : Leads context (ofInterior context place owner) := by
      refine leads_flatMap fun part listed => ?_
      cases part with
      | label access => trivial
      | member content =>
          exact inductionHypothesis content (Part.mem_of_member_mem_ofSections listed)
    rw [ofDeclaration, ofClass_eq]
    refine ⟨⟨"", ?_⟩, inside.append trivial⟩
    rw [join_ofBlock_eq_bareText valid restores, String.append_empty]

/-- In its declaration, a valid element has one note of each element that it contains. -/
theorem noted_ofDeclaration (valid : element.validate context = .ok ())
    (restores : element.RestoresBeyond place.level) :
    (noted (ofDeclaration context place element)).Perm
      (element.withMembers.map (.declaration, ·)) := by
  refine Element.induction_on_valid (motive := fun place element =>
    (noted (ofDeclaration context place element)).Perm
      (element.withMembers.map (.declaration, ·))) ?alone ?inClass valid restores
  case alone =>
    intro place element isAlone valid restores
    have writes : isWritten context .declaration place element = true := by
      rw [isWritten_iff, bareText_declaration valid restores]
      exact element.bare.layout_ne_empty context place
    rw [ofDeclaration_of_isAlone isAlone, noted_ofAlone, Element.withMembers_of_isAlone isAlone,
      List.filter_singleton, writes]
    exact .refl _
  case inClass =>
    intro place owner _ _ inductionHypothesis
    -- Members stand by access in the block, and by kind among the elements.
    have ofMembers := List.Perm.flatMap_left _ inductionHypothesis
    rw [← List.map_flatMap] at ofMembers
    have inside := ofMembers.trans (owner.perm_flatMap_members.map (Form.declaration, ·))
    rw [ofDeclaration, noted_ofClass, Element.withMembers, Class.elements_eq, List.map_cons]
    exact inside.cons _

/-! ## Definitions -/

theorem Class.isClass_of_mem_defined (owner : Class) :
    ∀ element ∈ owner.defined, element.isClass = false := by
  intro element listed
  obtain ⟨inner, _, isPart⟩ := List.mem_flatMap.mp listed
  cases element, isPart using ClassParts.mem_defined_cases <;> rfl

theorem join_ofDefinitions {script : Script} (defined : owner.definition context = .ok script) :
    join (ofDefinitions context place owner) = script.textAt place.sink := by
  obtain ⟨_, _, joined⟩ := (bind_eq_ok_iff _ _ _).mp defined
  obtain ⟨scripts, all, ⟨⟩⟩ := (bind_eq_ok_iff _ _ _).mp joined
  obtain ⟨total, visible⟩ :=
    Rendering.total_and_visible_of_all (owner.hasShape_definitions context) all
  rw [all_eq_ok_iff, Class.definitions_eq_map_defined] at all
  have texts : scripts.map (Script.textAt place.sink) =
      owner.defined.map fun element => join (ofAlone context .definition place element) := by
    refine Rendering.map_textAt_eq all fun element listed script rendered => ?_
    have isRendered : element.rendering context .definition = .ok script := rendered
    exact (join_ofAlone (owner.isClass_of_mem_defined element listed) isRendered).symm
  have visibleGroups : ∀ group ∈ owner.defined.map (ofAlone context .definition place),
      IsVisible group := List.forall_mem_map.mpr fun element _ => isVisible_ofAlone _ _ _ element
  rw [ofDefinitions, join_paragraphs visibleGroups, Script.textAt_paragraphs total,
    Script.map_textAt_nonempty visible, texts, List.map_map]
  rfl

theorem leads_ofDefinitions (context : Context) (place : Place) (owner : Class) :
    Leads context (ofDefinitions context place owner) :=
  leads_paragraphs (List.forall_mem_map.mpr fun element _ => leads_ofAlone _ _ _ element)

theorem noted_ofDefinitions (context : Context) (place : Place) (owner : Class) :
    noted (ofDefinitions context place owner) =
      (owner.defined.filter (isWritten context .definition place)).map (.definition, ·) := by
  rw [ofDefinitions, noted_paragraphs, List.flatMap_map]
  induction owner.defined with
  | nil => rfl
  | cons element rest inductionHypothesis =>
      rw [List.flatMap_cons, inductionHypothesis, noted_ofAlone, ← List.map_append,
        ← List.filter_append, List.singleton_append]

/-! ## Forms -/

namespace Element

/-- The forms of elements that are written when an element is written in one of its forms: all
declarations that it contains, and those definitions that are not empty. -/
def writtenForms (context : Context) (form : Form) (place : Place) : Element → List (Form × Element)
  | .classType owner =>
      let declarations := owner.elements.map (Form.declaration, ·)
      let definitions :=
        (owner.defined.filter (isWritten context .definition place)).map (Form.definition, ·)
      match form with
      | .declaration => declarations
      | .definition => definitions
      | .own => declarations ++ definitions
  | element => ([element].filter (isWritten context form place)).map (form, ·)

end Element

/-- The fragments make up the text of the script, each note stands in front of its form, and
the notes are those of the given forms. -/
structure IsSplit (context : Context) (place : Place) (script : Script)
    (fragments : List Fragment) (forms : List (Form × Element)) : Prop where
  text : script.textAt place.sink = join fragments
  leads : Leads context fragments
  noted : (noted fragments).Perm forms

theorem isSplit_ofClass {script : Script} (place : Place)
    (declared : owner.declaration context = .ok script)
    (restores : (Element.classType owner).RestoresBeyond place.level) :
    IsSplit context place script (ofClass context place owner)
      (owner.elements.map (.declaration, ·)) := by
  have valid : (Element.classType owner).validate context = .ok () := by
    rw [owner.declaration_eq context] at declared
    obtain ⟨_, passed, _⟩ := (bind_eq_ok_iff _ _ _).mp declared
    exact passed
  obtain ⟨same, isSame, prints⟩ := Element.prints_declaration valid restores
  cases declared.symm.trans isSame
  constructor
  · exact prints.textAt_eq.trans (join_ofDeclaration valid restores).symm
  · exact leads_ofDeclaration valid restores
  · exact noted_ofDeclaration valid restores

theorem isSplit_ofDefinitions {script : Script} (defined : owner.definition context = .ok script) :
    IsSplit context place script (ofDefinitions context place owner)
      ((owner.defined.filter (isWritten context .definition place)).map (.definition, ·)) where
  text := (join_ofDefinitions defined).symm
  leads := leads_ofDefinitions context place owner
  noted := .of_eq (noted_ofDefinitions context place owner)

theorem isSplit_ofAlone {form : Form} {script : Script} (isAlone : element.isClass = false)
    (rendered : element.rendering context form = .ok script) :
    IsSplit context place script (ofAlone context form place element)
      (([element].filter (isWritten context form place)).map (form, ·)) where
  text := (join_ofAlone isAlone rendered).symm
  leads := leads_ofAlone context form place element
  noted := .of_eq (noted_ofAlone context form place element)

/-- A blank line stands between two scripts that both write something. -/
theorem IsSplit.paragraphs {first second : Script}
    {firstFragments secondFragments : List Fragment}
    {firstForms secondForms : List (Form × Element)}
    (firstSplit : IsSplit context place first firstFragments firstForms)
    (secondSplit : IsSplit context place second secondFragments secondForms)
    (total : ∀ script ∈ [first, second], script.Total)
    (visible : ∀ script ∈ [first, second], script.Visible)
    (groupsVisible : ∀ group ∈ [firstFragments, secondFragments], IsVisible group) :
    IsSplit context place (Script.paragraphs [first, second])
      (Fragment.paragraphs [firstFragments, secondFragments]) (firstForms ++ secondForms) where
  text := by
    have texts : [first, second].map (Script.textAt place.sink) =
        [firstFragments, secondFragments].map join := by
      simp only [List.map_cons, firstSplit.text, secondSplit.text, List.map_nil]
    rw [Script.textAt_paragraphs total, Script.map_textAt_nonempty visible, texts,
      join_paragraphs groupsVisible]
  leads := leads_paragraphs (by simp [firstSplit.leads, secondSplit.leads])
  noted := by
    rw [noted_paragraphs]
    simpa using firstSplit.noted.append secondSplit.noted

theorem isSplit_own {script : Script} (rendered : owner.render context = .ok script)
    (restores : (Element.classType owner).RestoresBeyond place.level) :
    IsSplit context place script
      (Fragment.paragraphs [ofClass context place owner, ofDefinitions context place owner])
      ((Element.classType owner).writtenForms context .own place) := by
  obtain ⟨scripts, all, ⟨⟩⟩ := (bind_eq_ok_iff _ _ _).mp rendered
  have shapes : ∀ rendering ∈ [owner.declaration context, owner.definition context],
      ∃ body, rendering.HasShape body := by
    simp only [List.forall_mem_cons]
    exact ⟨⟨none, owner.hasShape_declaration context⟩, ⟨none, owner.hasShape_definition context⟩,
      List.forall_mem_nil _⟩
  obtain ⟨total, visible⟩ := Rendering.total_and_visible_of_all shapes all
  rw [all_eq_ok_iff] at all
  obtain ⟨first, others, rfl, declared, rest⟩ := List.map_eq_cons_iff.mp all.symm
  obtain ⟨second, last, rfl, defined, isLast⟩ := List.map_eq_cons_iff.mp rest
  cases List.map_eq_nil_iff.mp isLast
  have declaration := isSplit_ofClass place declared.symm restores
  refine declaration.paragraphs (isSplit_ofDefinitions defined.symm) total visible ?_
  have definitionsVisible : IsVisible (ofDefinitions context place owner) :=
    isVisible_paragraphs (List.forall_mem_map.mpr fun element _ => isVisible_ofAlone _ _ _ element)
  simp only [List.forall_mem_cons]
  exact ⟨isVisible_ofClass context place owner, definitionsVisible, List.forall_mem_nil _⟩

/-- What an element writes is made up by its fragments. -/
theorem Element.isSplit_fragments {form : Form} (place : Place) {script : Script}
    (rendered : element.rendering context form = .ok script)
    (restores : element.RestoresBeyond place.level) :
    IsSplit context place script (element.fragments context form place)
      (element.writtenForms context form place) := by
  cases element with
  | classType owner =>
      cases form with
      | declaration => exact isSplit_ofClass place rendered restores
      | definition => exact isSplit_ofDefinitions rendered
      | own => exact isSplit_own rendered restores
  | _ => exact isSplit_ofAlone rfl rendered

end CppModel
