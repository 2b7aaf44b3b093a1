import CppModel.Proofs.Documentation.Removal

/-!
# Fragments

What an element writes falls into fragments: notes, which are the documentation of elements,
and the code between them.  An element without members makes one note and one piece of code in
each form in which it writes something.  A class makes a note and the pieces of its block, with
the fragments of its members inside; in the source it makes those of the members it defines.

The code is taken from elements without their documentation.  So that the fragments make up
what is written says that the documentation shows nowhere but in the notes.
-/

namespace CppModel

open Procedure

/-- The documentation of an element in front of one of its forms, or code. -/
inductive Fragment
  | note (form : Form) (place : Place) (element : Element)
  | code (text : String)

namespace Fragment

/-- A note is the documentation in its place, if there is any. -/
def text : Fragment → String
  | .note _ place element => place.documentation element.documentation
  | .code text => text

/-- The text that the fragments make up. -/
def join (fragments : List Fragment) : String :=
  String.join (fragments.map text)

/-- The forms that have a note, in order. -/
def noted (fragments : List Fragment) : List (Form × Element) :=
  fragments.filterMap fun
    | .note form _ element => some (form, element)
    | .code _ => none

/-- What an element without documentation writes in a form. -/
def bareText (context : Context) (form : Form) (place : Place) (element : Element) : String :=
  (element.bare.write context form).textAt place.sink

/-- Each note stands directly in front of what its element writes in the form without it. -/
def Leads (context : Context) : List Fragment → Prop
  | [] => True
  | .note form place element :: rest =>
      (∃ behind, join rest = bareText context form place element ++ behind) ∧ Leads context rest
  | .code _ :: rest => Leads context rest

/-- Groups of fragments with a blank line between any two that are not empty. -/
def paragraphs (groups : List (List Fragment)) : List Fragment :=
  [.code "\n"].intercalate (groups.filter (! ·.isEmpty))

/-! ## Fragments of elements -/

/-- Whether the element writes anything in the form, documentation apart. -/
def isWritten (context : Context) (form : Form) (place : Place) (element : Element) : Bool :=
  !(bareText context form place element).isEmpty

/-- An element without members: its note and its code, or nothing. -/
def ofAlone (context : Context) (form : Form) (place : Place) (element : Element) :
    List Fragment :=
  if isWritten context form place element then
    [.note form place element, .code (bareText context form place element)]
  else []

/-- A label in line with the braces, or a member with its own fragments. -/
def ofPart {Member : Type} (place : Place) (ofMember : Member → List Fragment) :
    Part Member → List Fragment
  | .label access => [.code (place.line (access.word ++ ":"))]
  | .member content => ofMember content

mutual

/-- The declaration of a class. -/
def ofClass (context : Context) (place : Place) : Class → List Fragment
  | ⟨parts, nested⟩ =>
      let alone := ofAlone context .declaration place.inner
      let publics := parts.enumerations.map (alone <| .enumeration ·) ++
        ofClasses context place.inner nested ++ parts.functions.map (alone <| .member ·)
      let privates := parts.dataMembers.map (alone <| .data ·) ++
        parts.arrays.map (alone <| .array ·)
      .note .declaration place (.classType ⟨parts, nested⟩) :: .code (place.opening parts.head) ::
        ((Part.ofSections parts.isStruct publics privates).flatMap (ofPart place id) ++
          [.code (place.line "\x7d;")])

/-- The declarations of the classes of a list. -/
def ofClasses (context : Context) (place : Place) : List Class → List (List Fragment)
  | [] => []
  | inner :: rest => ofClass context place inner :: ofClasses context place rest

end

/-- The declaration of an element of any kind. -/
def ofDeclaration (context : Context) (place : Place) : Element → List Fragment
  | .classType owner => ofClass context place owner
  | element => ofAlone context .declaration place element

/-- The definitions of a class. -/
def ofDefinitions (context : Context) (place : Place) (owner : Class) : List Fragment :=
  paragraphs (owner.defined.map (ofAlone context .definition place))

end Fragment

/-- An element in one of its forms. -/
def Element.fragments (context : Context) (form : Form) (place : Place) :
    Element → List Fragment
  | .classType owner =>
      match form with
      | .declaration => Fragment.ofClass context place owner
      | .definition => Fragment.ofDefinitions context place owner
      | .own => Fragment.paragraphs
          [Fragment.ofClass context place owner, Fragment.ofDefinitions context place owner]
  | element => Fragment.ofAlone context form place element

theorem Fragment.ofDeclaration_of_isAlone {element : Element} (isAlone : element.isClass = false)
    (context : Context) (place : Place) :
    ofDeclaration context place element = ofAlone context .declaration place element := by
  cases element with
  | classType owner => cases isAlone
  | _ => rfl

theorem Element.fragments_of_isAlone {element : Element} (isAlone : element.isClass = false)
    (context : Context) (form : Form) (place : Place) :
    element.fragments context form place = Fragment.ofAlone context form place element := by
  cases element with
  | classType owner => cases isAlone
  | _ => rfl

/-! ## Fragments in a row -/

namespace Fragment

variable {context : Context} {first second : List Fragment} {groups : List (List Fragment)}

@[simp]
theorem join_nil : join [] = "" :=
  rfl

@[simp]
theorem join_cons (fragment : Fragment) (rest : List Fragment) :
    join (fragment :: rest) = fragment.text ++ join rest :=
  String.join_cons

@[simp]
theorem join_append (first second : List Fragment) :
    join (first ++ second) = join first ++ join second := by
  rw [join, List.map_append, String.join_append, join, join]

theorem join_flatMap {Item : Type} (items : List Item) (ofItem : Item → List Fragment) :
    join (items.flatMap ofItem) = String.join (items.map fun item => join (ofItem item)) := by
  induction items with
  | nil => rfl
  | cons item rest inductionHypothesis =>
      rw [List.flatMap_cons, join_append, inductionHypothesis, List.map_cons, String.join_cons]

@[simp]
theorem noted_append (first second : List Fragment) :
    noted (first ++ second) = noted first ++ noted second :=
  List.filterMap_append

theorem noted_flatMap {Item : Type} (items : List Item) (ofItem : Item → List Fragment) :
    noted (items.flatMap ofItem) = items.flatMap fun item => noted (ofItem item) :=
  List.filterMap_flatMap

theorem Leads.append (leads : Leads context first) (secondLeads : Leads context second) :
    Leads context (first ++ second) := by
  induction first with
  | nil => exact secondLeads
  | cons fragment rest inductionHypothesis =>
      cases fragment with
      | code text => exact inductionHypothesis leads
      | note form place element =>
          obtain ⟨⟨behind, inFront⟩, restLeads⟩ := leads
          refine ⟨⟨behind ++ join second, ?_⟩, inductionHypothesis restLeads⟩
          change join (rest ++ second) = _
          rw [join_append, inFront, String.append_assoc]

theorem leads_flatMap {Item : Type} {items : List Item} {ofItem : Item → List Fragment}
    (lead : ∀ item ∈ items, Leads context (ofItem item)) :
    Leads context (items.flatMap ofItem) := by
  induction items with
  | nil => trivial
  | cons item rest inductionHypothesis =>
      obtain ⟨itemLeads, restLead⟩ := List.forall_mem_cons.mp lead
      exact itemLeads.append (inductionHypothesis restLead)

/-! ## Paragraphs -/

theorem join_intercalate (groups : List (List Fragment)) :
    join ([.code "\n"].intercalate groups) = "\n".intercalate (groups.map join) := by
  induction groups with
  | nil => rfl
  | cons group rest inductionHypothesis =>
      cases rest with
      | nil => simp
      | cons next others =>
          simp only [List.map_cons] at inductionHypothesis ⊢
          rw [List.intercalate_cons_cons, join_append, join_append, inductionHypothesis,
            String.intercalate_cons_cons]
          rfl

theorem noted_intercalate (groups : List (List Fragment)) :
    noted ([.code "\n"].intercalate groups) = groups.flatMap noted := by
  induction groups with
  | nil => rfl
  | cons group rest inductionHypothesis =>
      cases rest with
      | nil => simp
      | cons next others =>
          rw [List.intercalate_cons_cons, noted_append, noted_append, inductionHypothesis,
            List.append_assoc]
          rfl

theorem leads_intercalate (lead : ∀ group ∈ groups, Leads context group) :
    Leads context ([.code "\n"].intercalate groups) := by
  induction groups with
  | nil => trivial
  | cons group rest inductionHypothesis =>
      obtain ⟨groupLeads, restLead⟩ := List.forall_mem_cons.mp lead
      cases rest with
      | nil => simpa using groupLeads
      | cons next others =>
          rw [List.intercalate_cons_cons, List.append_assoc]
          exact groupLeads.append (inductionHypothesis restLead)

theorem noted_paragraphs (groups : List (List Fragment)) :
    noted (paragraphs groups) = groups.flatMap noted := by
  rw [paragraphs, noted_intercalate]
  induction groups with
  | nil => rfl
  | cons group rest inductionHypothesis =>
      rw [List.flatMap_cons, ← inductionHypothesis]
      cases group <;> rfl

theorem leads_paragraphs (lead : ∀ group ∈ groups, Leads context group) :
    Leads context (paragraphs groups) :=
  leads_intercalate fun group listed => lead group (List.mem_filter.mp listed).1

/-- A group that makes up no text has no fragments. -/
def IsVisible (group : List Fragment) : Prop :=
  join group = "" → group = []

theorem join_paragraphs (visible : ∀ group ∈ groups, IsVisible group) :
    join (paragraphs groups) = "\n".intercalate ((groups.map join).filter (! ·.isEmpty)) := by
  have silent : ∀ group ∈ groups, (!group.isEmpty) = !(join group).isEmpty := by
    intro group listed
    have isSilent : join group = "" ↔ group = [] := by
      refine ⟨visible group listed, ?_⟩
      rintro rfl
      rfl
    rw [Bool.eq_iff_iff]
    simp [isSilent]
  rw [paragraphs, join_intercalate, List.filter_congr silent, List.filter_map]
  rfl

theorem isVisible_paragraphs (visible : ∀ group ∈ groups, IsVisible group) :
    IsVisible (paragraphs groups) := by
  intro silent
  rw [paragraphs, join_intercalate] at silent
  cases kept : groups.filter (! ·.isEmpty) with
  | nil => rw [paragraphs, kept, List.intercalate_nil]
  | cons group others =>
      have listed : group ∈ groups.filter (! ·.isEmpty) := kept ▸ List.mem_cons_self
      obtain ⟨isGroup, nonempty⟩ := List.mem_filter.mp listed
      have writes : join group ≠ "" := by
        intro isEmpty
        simp [visible group isGroup isEmpty] at nonempty
      rw [kept] at silent
      cases others <;> simp [writes] at silent

theorem forall₂_intercalate {related : Fragment → Fragment → Prop}
    {groups others : List (List Fragment)} (blank : related (.code "\n") (.code "\n"))
    (alike : List.Forall₂ (List.Forall₂ related) groups others) :
    List.Forall₂ related ([.code "\n"].intercalate groups) ([.code "\n"].intercalate others) := by
  induction alike with
  | nil => exact .nil
  | @cons group other rest otherRest first restAlike inductionHypothesis =>
      cases restAlike with
      | nil => simpa using first
      | cons =>
          rw [List.intercalate_cons_cons, List.intercalate_cons_cons]
          exact List.rel_append (List.rel_append first (.cons blank .nil)) inductionHypothesis

theorem forall₂_paragraphs {related : Fragment → Fragment → Prop}
    {groups others : List (List Fragment)} (blank : related (.code "\n") (.code "\n"))
    (alike : List.Forall₂ (List.Forall₂ related) groups others) :
    List.Forall₂ related (paragraphs groups) (paragraphs others) :=
  forall₂_intercalate blank (forall₂_filter alike fun _ _ same =>
    congrArg not (isEmpty_eq_of_forall₂ same))

/-! ## Elements without members -/

theorem isWritten_iff (context : Context) (form : Form) (place : Place) (element : Element) :
    isWritten context form place element = true ↔ bareText context form place element ≠ "" := by
  simp [isWritten]

theorem isVisible_ofAlone (context : Context) (form : Form) (place : Place) (element : Element) :
    IsVisible (ofAlone context form place element) := by
  intro silent
  rw [ofAlone] at silent ⊢
  split
  case isTrue writes =>
    rw [isWritten_iff] at writes
    simp [text, isWritten, writes] at silent
  case isFalse => rfl

theorem leads_ofAlone (context : Context) (form : Form) (place : Place) (element : Element) :
    Leads context (ofAlone context form place element) := by
  rw [ofAlone]
  split
  · refine ⟨⟨"", ?_⟩, trivial⟩
    rw [join_cons, join_nil, text]
  · trivial

theorem noted_ofAlone (context : Context) (form : Form) (place : Place) (element : Element) :
    noted (ofAlone context form place element) =
      ([element].filter (isWritten context form place)).map (form, ·) := by
  rw [ofAlone, List.filter_singleton]
  cases isWritten context form place element <;> rfl

end Fragment

theorem Script.textAt_ofDoc_append (place : Place) (documentation : Option String)
    (script : Script) :
    (ofDoc documentation ++ script).textAt place.sink =
      place.documentation documentation ++ script.textAt place.sink := by
  have samePlace : script.textAt (place.sink.raw (place.documentation documentation)) =
      script.textAt place.sink := textAt_eq_of_place script rfl rfl
  have behind := script.text_run (place.sink.raw (place.documentation documentation))
  rw [samePlace] at behind
  rw [textAt, run_append, prints_ofDoc place documentation place.sink.fork rfl]
  refine behind.trans ?_
  rw [Sink.raw, Place.sink, String.empty_append]

/-- The fragments of an element without members make up what it writes. -/
theorem Fragment.join_ofAlone {context : Context} {form : Form} {place : Place} {element : Element}
    {script : Script} (isAlone : element.isClass = false)
    (rendered : element.rendering context form = .ok script) :
    join (ofAlone context form place element) = script.textAt place.sink := by
  have documents := Element.documents_rendering isAlone context form
  have bareText_eq : bareText context form place element =
      (element.bare.rendering context form).textAt place.sink :=
    (element.bare.carriesOut_write context form).textAt_eq place.sink
  rw [Rendering.Documents, rendered] at documents
  cases bareRendered : element.bare.rendering context form with
  | error error =>
      rw [bareRendered] at documents
      cases documents
  | ok bare =>
      rw [bareRendered] at documents bareText_eq
      cases documents
      cases bare with
      | nil =>
          have isSilent : isWritten context form place element = false := by
            simp [isWritten, bareText_eq, Rendering.textAt]
          rw [ofAlone, isSilent]
          exact (Script.textAt_nil place.sink).symm
      | cons step rest =>
          have lines := (element.bare.hasShape_rendering context form _ bareRendered).writesLines
          have writes := lines.visible (List.cons_ne_nil step rest) place.sink
          have isWritten : isWritten context form place element = true := by
            rw [isWritten_iff, bareText_eq]
            exact writes
          rw [ofAlone, if_pos isWritten, bareText_eq, Script.documented, Script.textAt_ofDoc_append]
          simp [text, Rendering.textAt]

/-! ## Classes -/

namespace Fragment

variable {context : Context} {place : Place} {owner : Class}

theorem ofClasses_eq_map (context : Context) (place : Place) (nested : List Class) :
    ofClasses context place nested = nested.map (ofClass context place) := by
  induction nested with
  | nil => rfl
  | cons first rest inductionHypothesis => rw [ofClasses, inductionHypothesis, List.map_cons]

/-- The fragments between the braces of a class. -/
def ofInterior (context : Context) (place : Place) (owner : Class) : List Fragment :=
  owner.interior.flatMap (ofPart place (ofDeclaration context place.inner))

/-- The fragments of the block of a class. -/
def ofBlock (context : Context) (place : Place) (owner : Class) : List Fragment :=
  .code (place.opening owner.parts.head) ::
    (ofInterior context place owner ++ [.code (place.line "\x7d;")])

/-- A class has its note in front of its block. -/
theorem ofClass_eq (context : Context) (place : Place) (owner : Class) :
    ofClass context place owner =
      .note .declaration place (.classType owner) :: ofBlock context place owner := by
  have publics : owner.parts.enumerations.map
        (fun content => ofAlone context .declaration place.inner (.enumeration content)) ++
      ofClasses context place.inner owner.nested ++ owner.parts.functions.map
        (fun content => ofAlone context .declaration place.inner (.member content)) =
        owner.publicMembers.map (ofDeclaration context place.inner) := by
    rw [ofClasses_eq_map, Class.publicMembers, List.map_append, List.map_append, List.map_map,
      List.map_map, List.map_map]
    rfl
  have privates : owner.parts.dataMembers.map
        (fun content => ofAlone context .declaration place.inner (.data content)) ++
      owner.parts.arrays.map
        (fun content => ofAlone context .declaration place.inner (.array content)) =
        owner.privateMembers.map (ofDeclaration context place.inner) := by
    rw [Class.privateMembers, List.map_append, List.map_map, List.map_map]
    rfl
  have inside : ((Part.ofSections owner.parts.isStruct
        (owner.publicMembers.map (ofDeclaration context place.inner))
        (owner.privateMembers.map (ofDeclaration context place.inner))).map (ofPart place id)) =
      owner.interior.map (ofPart place (ofDeclaration context place.inner)) := by
    apply Part.map_ofSections <;> exact fun _ => rfl
  cases owner with
  | mk parts nested =>
      rw [ofClass, publics, privates, List.flatMap_def, inside, ofBlock, ofInterior,
        List.flatMap_def]

/-- A class has one note, and behind it those of its members. -/
theorem noted_ofClass (context : Context) (place : Place) (owner : Class) :
    noted (ofClass context place owner) =
      (.declaration, .classType owner) ::
        (owner.publicMembers ++ owner.privateMembers).flatMap fun member =>
          noted (ofDeclaration context place.inner member) := by
  have inside : noted (ofInterior context place owner) =
      (owner.publicMembers ++ owner.privateMembers).flatMap fun member =>
        noted (ofDeclaration context place.inner member) := by
    rw [ofInterior, noted_flatMap, Class.interior, Part.flatMap_ofSections fun _ => rfl]
    rfl
  have behind : noted (ofBlock context place owner) = noted (ofInterior context place owner) := by
    rw [ofBlock]
    change noted (_ ++ _) = _
    rw [noted_append]
    exact List.append_nil _
  rw [← inside, ← behind, ofClass_eq]
  rfl

/-- A class is declared with a closing brace, whatever is in it. -/
theorem isVisible_ofClass (context : Context) (place : Place) (owner : Class) :
    IsVisible (ofClass context place owner) := by
  intro silent
  simp [ofClass_eq, ofBlock, text, Place.line] at silent

/-- The block of a class is what its members are laid out to between the braces. -/
theorem join_ofBlock
    (laidOut : ∀ member ∈ owner.publicMembers ++ owner.privateMembers,
      join (ofDeclaration context place.inner member) = member.layout context place.inner) :
    join (ofBlock context place owner) =
      place.block owner.parts.head ";"
        (String.join (owner.interior.map (Part.text place (·.layout context place.inner)))) := by
  have inside : join (ofInterior context place owner) =
      String.join (owner.interior.map (Part.text place (·.layout context place.inner))) := by
    rw [ofInterior, join_flatMap]
    refine congrArg String.join (List.map_congr_left fun part listed => ?_)
    cases part with
    | label access => simp [ofPart, text, Part.text]
    | member content => exact laidOut content (Part.mem_of_member_mem_ofSections listed)
  rw [ofBlock, join_cons, join_append, inside, join_cons, join_nil, Place.block,
    String.append_empty, String.append_assoc]
  rfl

end Fragment

end CppModel
