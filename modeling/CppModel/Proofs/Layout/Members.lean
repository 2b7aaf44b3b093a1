import CppModel.Proofs.Layout.Classes
import CppModel.Proofs.Lists.Related
import CppModel.Proofs.Pieces.Units

/-!
# Members in their class

A class lists its members in two sections, and all that a member contains is contained in its
class.  So what is asked of all bodies in a class is asked of those in each of its members, and
an element of any kind prints its layout if it is valid and its bodies restore their level.
-/

namespace CppModel

theorem Part.mem_of_member_mem_ofSections {Member : Type} {isStruct : Bool}
    {first second : List Member} {content : Member}
    (listed : .member content ∈ ofSections isStruct first second) : content ∈ first ++ second := by
  simpa [ofSections, ofSection] using listed

/-- What shows nothing for labels shows the members in a row. -/
theorem Part.flatMap_ofSections {Member Content : Type} {content : Part Member → List Content}
    (label : ∀ access, content (.label access) = []) (isStruct : Bool)
    (first second : List Member) :
    (ofSections isStruct first second).flatMap content =
      (first ++ second).flatMap fun member => content (.member member) := by
  have ofSection_eq (isLabelled : Bool) (access : Access) (members : List Member) :
      (ofSection isLabelled access members).flatMap content =
        members.flatMap fun member => content (.member member) := by
    rw [ofSection, List.flatMap_append, List.flatMap_map]
    cases isLabelled <;> simp [label]
  rw [ofSections, List.flatMap_append, ofSection_eq, ofSection_eq, List.flatMap_append]

/-- Sections of related members have related parts. -/
theorem Part.forall₂_ofSections {Member Other : Type} {related : Part Member → Part Other → Prop}
    {first second : List Member} {otherFirst otherSecond : List Other}
    (label : ∀ access, related (.label access) (.label access))
    (firstRelated : List.Forall₂ (fun member other => related (.member member) (.member other))
      first otherFirst)
    (secondRelated : List.Forall₂ (fun member other => related (.member member) (.member other))
      second otherSecond) (isStruct : Bool) :
    List.Forall₂ related (ofSections isStruct first second)
      (ofSections isStruct otherFirst otherSecond) := by
  have ofSection_related (isLabelled : Bool) (access : Access) {members : List Member}
      {others : List Other}
      (alike : List.Forall₂ (fun member other => related (.member member) (.member other))
        members others) :
      List.Forall₂ related (ofSection isLabelled access members)
        (ofSection isLabelled access others) := by
    have inRow : List.Forall₂ related (members.map .member) (others.map .member) := by
      rwa [List.forall₂_map_left_iff, List.forall₂_map_right_iff]
    cases isLabelled with
    | false => exact inRow
    | true => exact .cons (label access) inRow
  rw [ofSections, ofSections, isEmpty_eq_of_forall₂ firstRelated,
    isEmpty_eq_of_forall₂ secondRelated]
  exact List.rel_append (ofSection_related _ _ firstRelated) (ofSection_related _ _ secondRelated)

theorem Element.mem_withMembers_self (element : Element) : element ∈ element.withMembers := by
  cases element with
  | classType owner =>
      rw [withMembers, Class.elements_eq]
      exact List.mem_cons_self
  | _ => exact List.mem_singleton_self _

theorem Element.withMembers_of_isAlone {element : Element} (isAlone : element.isClass = false) :
    element.withMembers = [element] := by
  cases element with
  | classType owner => cases isAlone
  | _ => rfl

namespace Class

variable {owner : Class} {member : Element}

/-- A property of every member, kind by kind. -/
theorem forall_mem_members_iff {holds : Element → Prop} :
    (∀ member ∈ owner.publicMembers ++ owner.privateMembers, holds member) ↔
      (((∀ content ∈ owner.parts.enumerations, holds (.enumeration content)) ∧
        ∀ inner ∈ owner.nested, holds (.classType inner)) ∧
          ∀ content ∈ owner.parts.functions, holds (.member content)) ∧
        (∀ content ∈ owner.parts.dataMembers, holds (.data content)) ∧
          ∀ content ∈ owner.parts.arrays, holds (.array content) := by
  simp only [publicMembers, privateMembers, List.forall_mem_append, List.forall_mem_map]

/-- All that a member contains is contained in its class. -/
theorem mem_elements_of_mem_members {element : Element}
    (isMember : member ∈ owner.publicMembers ++ owner.privateMembers)
    (isPart : element ∈ member.withMembers) : element ∈ owner.elements := by
  have inParts {content : Element} (listed : content ∈ owner.parts.elements) :
      ∀ part ∈ [content], part ∈ owner.elements := by
    rw [List.forall_mem_singleton, elements_eq]
    exact List.mem_cons_of_mem _ (List.mem_append_left _ listed)
  have contained : ∀ member ∈ owner.publicMembers ++ owner.privateMembers,
      ∀ part ∈ member.withMembers, part ∈ owner.elements := by
    rw [forall_mem_members_iff]
    refine ⟨⟨⟨?enumerations, ?classes⟩, ?functions⟩, ?data, ?arrays⟩
    case classes =>
      intro inner listed part isPart
      rw [elements_eq]
      exact List.mem_cons_of_mem _
        (List.mem_append_right _ (List.mem_flatMap.mpr ⟨inner, listed, isPart⟩))
    all_goals
      intro content listed
      apply inParts
      simp [ClassParts.elements, listed]
  exact contained member isMember element isPart

theorem validate_of_mem_members {context : Context} (valid : owner.validate context = .ok ())
    (isMember : member ∈ owner.publicMembers ++ owner.privateMembers) :
    member.validate context = .ok () :=
  validate_of_mem_elements valid member
    (mem_elements_of_mem_members isMember member.mem_withMembers_self)

end Class

/-- What holds of elements without members, and of a class as soon as it holds of its members,
holds of every element. -/
@[elab_as_elim]
theorem Element.induction_on {motive : Element → Prop} (element : Element)
    (alone : ∀ element, element.isClass = false → motive element)
    (inClass : ∀ owner : Class,
      (∀ member ∈ owner.publicMembers ++ owner.privateMembers, motive member) →
        motive (.classType owner)) :
    motive element := by
  cases element with
  | classType owner =>
      induction owner using Class.induction_on with
      | step parts nested inductionHypothesis =>
          refine inClass _ (Class.forall_mem_members_iff.mpr ?_)
          exact ⟨⟨⟨fun _ _ => alone _ rfl, inductionHypothesis⟩, fun _ _ => alone _ rfl⟩,
            fun _ _ => alone _ rfl, fun _ _ => alone _ rfl⟩
  | _ => exact alone _ rfl

/-- The members contain all that the class contains besides itself. -/
theorem Class.perm_flatMap_members (owner : Class) :
    ((owner.publicMembers ++ owner.privateMembers).flatMap Element.withMembers).Perm
      (owner.parts.elements ++ owner.nested.flatMap elements) := by
  have single {Item : Type} {kind : Item → Element}
      (alone : ∀ item, (kind item).withMembers = [kind item]) (items : List Item) :
      (items.map kind).flatMap Element.withMembers = items.map kind := by
    simp only [List.flatMap_map, alone]
    exact List.flatMap_pure_eq_map _ _
  have classes : (owner.nested.map Element.classType).flatMap Element.withMembers =
      owner.nested.flatMap elements := List.flatMap_map ..
  rw [publicMembers, privateMembers, List.flatMap_append, List.flatMap_append, List.flatMap_append,
    List.flatMap_append, classes, single fun _ => rfl, single fun _ => rfl, single fun _ => rfl,
    single fun _ => rfl, ClassParts.elements, ← Multiset.coe_eq_coe]
  -- Only the order of five lists is left, so this is a sum of multisets.
  simp only [← Multiset.coe_add]
  abel

/-! ## Bodies that restore their level -/

/-- The bodies of the element, members included, end at the level where they begin wherever
this is deeper than the given level. -/
def Element.RestoresBeyond (level : Nat) (element : Element) : Prop :=
  ∀ part ∈ element.withMembers, ∀ content ∈ part.body, ∀ deeper, level < deeper →
    content.Restores deeper

/-- Elements with the same bodies restore the same levels. -/
theorem Element.restoresBeyond_congr {level : Nat} {first second : Element}
    (same : first.withMembers.map body = second.withMembers.map body) :
    first.RestoresBeyond level ↔ second.RestoresBeyond level := by
  have ofBodies (element : Element) : element.RestoresBeyond level ↔
      ∀ given ∈ element.withMembers.map body, ∀ content ∈ given, ∀ deeper, level < deeper →
        content.Restores deeper := by
    rw [List.forall_mem_map]
    rfl
  rw [ofBodies, ofBodies, same]

namespace Element.RestoresBeyond

variable {level : Nat} {element member : Element} {owner : Class}

theorem own (restores : element.RestoresBeyond level) {content : Script}
    (isBody : element.body = some content) : content.Restores (level + 1) :=
  restores element element.mem_withMembers_self content isBody _ (Nat.lt_succ_self level)

/-- The members of a class stand one level further in. -/
theorem ofMember (restores : (Element.classType owner).RestoresBeyond level)
    (isMember : member ∈ owner.publicMembers ++ owner.privateMembers) :
    member.RestoresBeyond (level + 1) := fun part isPart content isBody deeper beyond =>
  restores part (Class.mem_elements_of_mem_members isMember isPart) content isBody deeper
    (Nat.lt_of_succ_lt beyond)

theorem restoresAt (restores : (Element.classType owner).RestoresBeyond level) :
    owner.RestoresAt level := by
  induction owner using Class.induction_on generalizing level with
  | step parts nested inductionHypothesis =>
      have ofMembers := Class.forall_mem_members_iff.mp fun _ isMember => restores.ofMember isMember
      obtain ⟨⟨⟨_, classes⟩, functions⟩, _⟩ := ofMembers
      constructor
      · exact fun function listed content isBody => (functions function listed).own isBody
      · exact fun inner listed => inductionHypothesis inner listed (classes inner listed)

end Element.RestoresBeyond

/-- A valid element prints its layout, if all bodies end at the level where they begin. -/
theorem Element.prints_declaration {context : Context} {element : Element} {place : Place}
    (valid : element.validate context = .ok ()) (restores : element.RestoresBeyond place.level) :
    (element.declaration context).Prints place (element.layout context place) := by
  cases element with
  | function content => exact content.prints_declaration valid fun _ => restores.own
  | member content => exact content.prints_declaration valid fun _ => restores.own
  | data content => exact content.prints_declaration valid
  | array content => exact content.prints_declaration valid
  | enumeration content => exact content.prints_declaration place
  | classType owner => exact Class.prints_declaration valid restores.restoresAt

/-- What holds of valid elements without members whose bodies restore their level, and of valid
classes as soon as it holds of their members one level further in, holds of every valid element
whose bodies do. -/
theorem Element.induction_on_valid {context : Context} {motive : Place → Element → Prop}
    (alone : ∀ (place : Place) (element : Element), element.isClass = false →
      element.validate context = .ok () → element.RestoresBeyond place.level →
        motive place element)
    (inClass : ∀ (place : Place) (owner : Class), owner.validate context = .ok () →
      (Element.classType owner).RestoresBeyond place.level →
        (∀ member ∈ owner.publicMembers ++ owner.privateMembers, motive place.inner member) →
          motive place (.classType owner))
    {place : Place} {element : Element} (valid : element.validate context = .ok ())
    (restores : element.RestoresBeyond place.level) : motive place element := by
  induction element using Element.induction_on generalizing place with
  | alone element isAlone => exact alone place element isAlone valid restores
  | inClass owner inductionHypothesis =>
      exact inClass place owner valid restores fun member isMember =>
        inductionHypothesis member isMember (Class.validate_of_mem_members valid isMember)
          (restores.ofMember isMember)

end CppModel
