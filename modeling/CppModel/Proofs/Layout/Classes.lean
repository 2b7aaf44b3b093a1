import CppModel.Proofs.Layout.Elements
import CppModel.Proofs.Procedure.Units
import CppModel.Proofs.Class.Tree
import CppModel.Proofs.Validation.Classes

/-!
# The layout of classes

The declaration of a class is a recursive function of the tree and the place: the
documentation, and a block around the members, which stand one level further in.

A label gives its access to all members behind it, up to the next label.  The labels of a
class are placed such that the enumerations, the nested classes and the functions are
public and the variables and arrays are private, although a label is left out where it
would say what holds anyway.
-/

namespace CppModel

open Procedure
open Script (prints_nil prints_label prints_documented_block)
open Rendering (prints_pure prints_bind prints_inRow)

/-! ## Labels and the access that they give -/

/-- Who may use a member. -/
inductive Access
  | visible
  | hidden
  deriving DecidableEq, Repr

/-- The keyword of a label. -/
def Access.word : Access → String
  | .visible => "public"
  | .hidden => "private"

/-- What stands between the braces of a class. -/
inductive Part (Member : Type)
  | label (access : Access)
  | member (content : Member)

namespace Part

variable {Member : Type}

/-- A label in line with the braces, or a member with its own layout. -/
def text (place : Place) (layout : Member → String) : Part Member → String
  | .label access => place.line (access.word ++ ":")
  | .member content => layout content

/-- The members with the access that each of them has, where `current` is the access in
front of the first label. -/
def accesses (current : Access) : List (Part Member) → List (Member × Access)
  | [] => []
  | .label access :: rest => accesses access rest
  | .member content :: rest => (content, current) :: accesses current rest

/-- The members of a section, under a label if it has one. -/
def ofSection (isLabelled : Bool) (access : Access) (members : List Member) :
    List (Part Member) :=
  (if isLabelled then [.label access] else []) ++ members.map .member

/-- Two sections in a row.  A struct has no labels.  A class labels its first section if
there is one, and its second one if there are both. -/
def ofSections (isStruct : Bool) (first second : List Member) : List (Part Member) :=
  ofSection (!isStruct && !first.isEmpty) .visible first ++
    ofSection (!isStruct && !first.isEmpty && !second.isEmpty) .hidden second

/-- The access in front of the first label of a class or a struct. -/
def defaultAccess (isStruct : Bool) : Access :=
  if isStruct then .visible else .hidden

theorem accesses_map_member_append (current : Access) (members : List Member)
    (rest : List (Part Member)) :
    accesses current (members.map .member ++ rest) =
      members.map (·, current) ++ accesses current rest := by
  induction members with
  | nil => rfl
  | cons first others inductionHypothesis =>
      exact congrArg ((first, current) :: ·) inductionHypothesis

theorem accesses_map_member (current : Access) (members : List Member) :
    accesses current (members.map .member) = members.map (·, current) := by
  simpa [accesses] using accesses_map_member_append current members []

/-- The labels make the first section public, and leave the second one of a class
private. -/
theorem accesses_ofSections (isStruct : Bool) (first second : List Member) :
    accesses (defaultAccess isStruct) (ofSections isStruct first second) =
      first.map (·, .visible) ++ second.map (·, defaultAccess isStruct) := by
  cases isStruct with
  | true =>
      simp [ofSections, ofSection, defaultAccess, accesses_map_member_append, accesses_map_member]
  | false =>
      cases first with
      | nil => simp [ofSections, ofSection, defaultAccess, accesses_map_member]
      | cons member others =>
          cases second with
          | nil => simp [ofSections, ofSection, defaultAccess, accesses_map_member, accesses]
          | cons other rest =>
              simp [ofSections, ofSection, defaultAccess, accesses_map_member_append,
                accesses_map_member, accesses]

theorem label_mem_ofSections_iff (isStruct : Bool) (first second : List Member) (access : Access) :
    .label access ∈ ofSections isStruct first second ↔
      isStruct = false ∧ first ≠ [] ∧ (access = .hidden → second ≠ []) := by
  cases access <;> cases isStruct <;> simp [ofSections, ofSection]

/-- Sections of items that stand for members have the parts of the members. -/
theorem map_ofSections {Item Content : Type} {of : Item → Member} {content : Part Member → Content}
    {itemContent : Part Item → Content}
    (label : ∀ access, content (.label access) = itemContent (.label access))
    (member : ∀ item, content (.member (of item)) = itemContent (.member item))
    (isStruct : Bool) (first second : List Item) :
    (ofSections isStruct (first.map of) (second.map of)).map content =
      (ofSections isStruct first second).map itemContent := by
  have section_eq (isLabelled : Bool) (access : Access) (items : List Item) :
      (ofSection isLabelled access (items.map of)).map content =
        (ofSection isLabelled access items).map itemContent := by
    have members : ((items.map of).map .member).map content =
        (items.map Part.member).map itemContent := by
      simp only [List.map_map]
      exact List.map_congr_left fun item _ => member item
    rw [ofSection, ofSection, List.map_append, List.map_append, members]
    cases isLabelled <;> simp [label]
  simp only [ofSections, List.map_append, section_eq, List.isEmpty_map]

theorem map_text_ofSections {Item : Type} (place : Place) (layout : Member → String)
    (of : Item → Member) (isStruct : Bool) (first second : List Item) :
    (ofSections isStruct (first.map of) (second.map of)).map (text place layout) =
      (ofSections isStruct first second).map (text place fun item => layout (of item)) := by
  apply map_ofSections <;> exact fun _ => rfl

end Part

/-! ## Classes -/

/-- The first line of a class, without its brace. -/
def ClassParts.head (parts : ClassParts) : String :=
  (if parts.isStruct then "struct" else "class") ++ " " ++ parts.name ++
    match parts.base with
    | some base => " : public " ++ base
    | none => ""

theorem ClassParts.header_eq_head (parts : ClassParts) : parts.header = parts.head := by
  rw [header, head]
  cases parts.isStruct <;> cases parts.base <;> simp [String.append_assoc]

namespace Class

/-- The members that are public, in the order of the declaration. -/
def publicMembers (owner : Class) : List Element :=
  owner.parts.enumerations.map .enumeration ++ owner.nested.map .classType ++
    owner.parts.functions.map .member

/-- The members that are private unless the class is a struct. -/
def privateMembers (owner : Class) : List Element :=
  owner.parts.dataMembers.map .data ++ owner.parts.arrays.map .array

/-- What stands between the braces. -/
def interior (owner : Class) : List (Part Element) :=
  Part.ofSections owner.parts.isStruct owner.publicMembers owner.privateMembers

mutual

/-- The declaration of the class. -/
def layout (context : Context) (place : Place) : Class → String
  | ⟨parts, nested⟩ =>
      let publics := parts.enumerations.map (·.layout place.inner) ++
        layouts context place.inner nested ++ parts.functions.map (·.layout place.inner)
      let privates := parts.dataMembers.map (·.layout context place.inner) ++
        parts.arrays.map (·.layout context place.inner)
      place.documentation parts.documentation ++
        place.block parts.head ";"
          (String.join ((Part.ofSections parts.isStruct publics privates).map (Part.text place id)))

/-- The declarations of the classes of a list. -/
def layouts (context : Context) (place : Place) : List Class → List String
  | [] => []
  | inner :: rest => layout context place inner :: layouts context place rest

end

end Class

/-- The declaration of an element of any kind. -/
def Element.layout (context : Context) (place : Place) : Element → String
  | .function content => content.layout place
  | .member content => content.layout place
  | .data content => content.layout context place
  | .array content => content.layout context place
  | .enumeration content => content.layout place
  | .classType content => content.layout context place

namespace Class

theorem layouts_eq_map (context : Context) (place : Place) (nested : List Class) :
    layouts context place nested = nested.map (layout context place) := by
  induction nested with
  | nil => rfl
  | cons first rest inductionHypothesis => rw [layouts, inductionHypothesis, List.map_cons]

/-- A class is laid out around the layouts of what stands between its braces. -/
theorem layout_eq (context : Context) (place : Place) (owner : Class) :
    owner.layout context place =
      place.documentation owner.parts.documentation ++
        place.block owner.parts.head ";"
          (String.join
            (owner.interior.map (Part.text place (·.layout context place.inner)))) := by
  have publics : owner.parts.enumerations.map (·.layout place.inner) ++
      layouts context place.inner owner.nested ++ owner.parts.functions.map (·.layout place.inner) =
        owner.publicMembers.map (·.layout context place.inner) := by
    rw [layouts_eq_map, publicMembers, List.map_append, List.map_append, List.map_map,
      List.map_map, List.map_map]
    rfl
  have privates : owner.parts.dataMembers.map (·.layout context place.inner) ++
      owner.parts.arrays.map (·.layout context place.inner) =
        owner.privateMembers.map (·.layout context place.inner) := by
    rw [privateMembers, List.map_append, List.map_map, List.map_map]
    rfl
  cases owner with
  | mk parts nested =>
      rw [layout, publics, privates, Part.map_text_ofSections]
      rfl

/-- The bodies of all functions end at the level where they begin when the class is declared
at the given level: those of the class itself two levels further in, and those of nested
classes deeper. -/
inductive RestoresAt : Nat → Class → Prop
  | intro {level : Nat} {parts : ClassParts} {nested : List Class}
      (functions : ∀ function ∈ parts.functions, ∀ content, function.body = some content →
        content.Restores (level + 2))
      (classes : ∀ inner ∈ nested, RestoresAt (level + 1) inner) :
      RestoresAt level ⟨parts, nested⟩

/-! ## Writing classes -/

variable {context : Context} {place : Place}

theorem publicDeclarations_eq_map (context : Context) (owner : Class) :
    owner.publicDeclarations context = owner.publicMembers.map (·.declaration context) := by
  rw [publicDeclarations_eq, publicMembers, List.map_append, List.map_append, List.map_map,
    List.map_map, List.map_map]
  rfl

theorem privateDeclarations_eq_map (context : Context) (owner : Class) :
    owner.privateDeclarations context = owner.privateMembers.map (·.declaration context) := by
  rw [privateDeclarations, ClassParts.privateDeclarations, privateMembers, List.map_append,
    List.map_map, List.map_map]
  rfl

theorem hasPublic_eq (owner : Class) : owner.hasPublic = !owner.publicMembers.isEmpty := by
  rw [Bool.eq_iff_iff]
  simp only [hasPublic, publicMembers, Bool.or_eq_true, Bool.not_eq_true',
    List.isEmpty_eq_false_iff, ne_eq, List.append_eq_nil_iff, List.map_eq_nil_iff, not_and_or]

theorem hasPrivate_eq (owner : Class) : owner.hasPrivate = !owner.privateMembers.isEmpty := by
  rw [Bool.eq_iff_iff]
  simp only [hasPrivate, privateMembers, Bool.or_eq_true, Bool.not_eq_true',
    List.isEmpty_eq_false_iff, ne_eq, List.append_eq_nil_iff, List.map_eq_nil_iff, not_and_or]

/-- A section prints its label in line with the braces, and its members one level further
in. -/
theorem prints_section (labelled : Bool) (access : Access) {members : List Element}
    (prints : ∀ member ∈ members,
      (member.declaration context).Prints place.inner (member.layout context place.inner)) :
    Rendering.Prints place.inner
      (String.join ((Part.ofSection (labelled && !members.isEmpty) access members).map
        (Part.text place (·.layout context place.inner))))
      ((Rendering.inRow (members.map (·.declaration context))).map fun script =>
        if !members.isEmpty then labelScript labelled access.word ++ script else []) := by
  obtain ⟨script, rendered, scriptPrints⟩ := prints_inRow prints
  rw [rendered]
  cases members with
  | nil =>
      rw [List.isEmpty_nil, Bool.not_true, Bool.and_false]
      exact prints_pure (prints_nil place.inner)
  | cons first rest =>
      have memberTexts : ((first :: rest).map Part.member).map
          (Part.text place (·.layout context place.inner)) =
            (first :: rest).map (·.layout context place.inner) := List.map_map
      rw [Part.ofSection, List.map_append, memberTexts, String.join_append]
      cases labelled with
      | false => exact prints_pure ((prints_nil place.inner).append scriptPrints)
      | true =>
          have label : Script.Prints place.inner (String.join [place.line (access.word ++ ":")])
              [.label access.word] := by
            simpa using prints_label place access.word
          exact prints_pure (label.append scriptPrints)

/-- The members print what stands between the braces, if each of them prints its layout. -/
theorem prints_members {owner : Class}
    (prints : ∀ member ∈ owner.publicMembers ++ owner.privateMembers,
      (member.declaration context).Prints place.inner (member.layout context place.inner)) :
    (membersRendering context owner).Prints place.inner
      (String.join (owner.interior.map (Part.text place (·.layout context place.inner)))) := by
  obtain ⟨publicsPrint, privatesPrint⟩ := List.forall_mem_append.mp prints
  rw [membersRendering_eq_append, publicDeclarations_eq_map, privateDeclarations_eq_map,
    hasPublic_eq, hasPrivate_eq, interior, Part.ofSections, List.map_append, String.join_append]
  exact (prints_section (!owner.parts.isStruct) .visible publicsPrint).append
    (prints_section (!owner.parts.isStruct && !owner.publicMembers.isEmpty) .hidden privatesPrint)

/-- A valid class prints its layout, if all bodies end at the level where they begin. -/
theorem prints_declaration {owner : Class} (valid : owner.validate context = .ok ())
    (restores : owner.RestoresAt place.level) :
    (owner.declaration context).Prints place (owner.layout context place) := by
  induction owner using induction_on generalizing place with
  | step parts nested inductionHypothesis =>
      obtain ⟨bodiesRestore, classesRestore⟩ := restores
      obtain ⟨nestedValid, partsValid⟩ := (Class.validate_eq_ok_iff context _).mp valid
      obtain ⟨functionsValid, dataValid, arraysValid⟩ :=
        (parts.validate_eq_ok_iff context).mp partsValid
      have membersPrint :
          ∀ member ∈ publicMembers ⟨parts, nested⟩ ++ privateMembers ⟨parts, nested⟩,
            (member.declaration context).Prints place.inner
              (member.layout context place.inner) := by
        simp only [publicMembers, privateMembers, List.forall_mem_append, List.forall_mem_map]
        refine ⟨⟨⟨?enumerations, ?classes⟩, ?functions⟩, ?data, ?arrays⟩
        case enumerations => exact fun content _ => content.prints_declaration place.inner
        case classes =>
          exact fun inner listed => inductionHypothesis inner listed (nestedValid inner listed)
            (classesRestore inner listed)
        case functions =>
          exact fun content listed => MemberFunction.prints_declaration
            (functionsValid content listed) (bodiesRestore content listed)
        case data =>
          exact fun content listed => Variable.prints_declaration (dataValid content listed)
        case arrays =>
          exact fun content listed => ArrayVariable.prints_declaration (arraysValid content listed)
      obtain ⟨members, rendered, print⟩ := prints_members membersPrint
      rw [declaration_eq_membersRendering, layout_eq]
      apply prints_bind valid
      rw [rendered, ClassParts.header_eq_head]
      have whole := prints_documented_block parts.documentation parts.head ";" print.run_fst_eq
      exact prints_pure whole.fork

end Class

/-- Declaring a valid class adds its layout to a sink, which ends at the level where it
began, if the bodies of its functions do.  In every class of the tree, the members stand
between the braces in order, the labels make the first kinds public and leave the others
private, and no label stands where it is not needed. -/
theorem class_declaration_is_layout {context : Context} {owner : Class} (sink : Sink)
    (valid : owner.validate context = .ok ()) (restores : owner.RestoresAt sink.level) :
    (owner.writeDeclaration context).runOn sink =
        (sink.raw (owner.layout context sink.place), .ok ()) ∧
      ∀ inner ∈ owner.tree,
        (∀ place, inner.layout context place =
          place.documentation inner.parts.documentation ++
            place.block inner.parts.head ";"
              (String.join
                (inner.interior.map (Part.text place (·.layout context place.inner))))) ∧
        Part.accesses (Part.defaultAccess inner.parts.isStruct) inner.interior =
          inner.publicMembers.map (·, .visible) ++
            inner.privateMembers.map (·, Part.defaultAccess inner.parts.isStruct) ∧
        (.label .visible ∈ inner.interior ↔
          inner.parts.isStruct = false ∧ inner.publicMembers ≠ []) ∧
        (.label .hidden ∈ inner.interior ↔
          inner.parts.isStruct = false ∧ inner.publicMembers ≠ [] ∧ inner.privateMembers ≠ []) := by
  constructor
  · have declared : (owner.declaration context).Prints sink.place
        (owner.layout context sink.place) := Class.prints_declaration valid restores
    obtain ⟨script, rendered, prints⟩ := declared
    rw [owner.carriesOut_writeDeclaration context sink, rendered, Sink.write, prints sink rfl]
  · intro inner _
    refine ⟨fun place => inner.layout_eq context place, ?accesses, ?visible, ?hidden⟩
    case accesses => exact Part.accesses_ofSections _ _ _
    case visible =>
      rw [Class.interior, Part.label_mem_ofSections_iff]
      simp
    case hidden =>
      rw [Class.interior, Part.label_mem_ofSections_iff]
      simp

namespace Valve

/-- A class with members of most kinds, and with a struct inside. -/
def valve : Class :=
  ⟨{ scope := ⟨0⟩
     name := "Valve"
     base := some "Device"
     documentation := some "// Opens and shuts."
     enumerations := [{ name := "State", link := some ⟨0⟩, items := ["Open", "Shut"] }]
     functions := [.method { name := "limit", link := some ⟨0⟩, returnType := some "int",
                             modifiers := { isConstexpr := true },
                             body := some [.line "return 9;"] }]
     dataMembers := [{ name := "m_state", type := "State", link := some ⟨0⟩ }] },
    [⟨{ scope := ⟨1⟩
        name := "Range"
        isStruct := true
        functions := [.constructor { name := "Range", link := some ⟨1⟩ }]
        arrays := [{ name := "steps", type := "int", link := some ⟨1⟩, size := some 4 }] }, []⟩]⟩

/-- The scopes of the two classes, with the types that each of them declares. -/
def context : Context :=
  .ofScopes ⟨#[some ⟨"Valve", none, ["State", "Range"]⟩, some ⟨"Range", some ⟨0⟩, []⟩]⟩

/-- The declaration, one level in. -/
def declared : String :=
  String.join ["  // Opens and shuts.\n", "  class Valve : public Device \x7b\n",
    "  public:\n", "    enum State \x7b\n", "      eOpen = 0,\n", "      eShut = 1,\n",
    "      eStateCount = 2\n", "    \x7d;\n", "    struct Range \x7b\n", "      Range();\n",
    "      int steps[4];\n", "    \x7d;\n", "    constexpr int limit() \x7b\n",
    "      return 9;\n", "    \x7d\n", "  private:\n", "    State m_state;\n", "  \x7d;\n"]

end Valve

open Valve in
/-- The class is laid out with both labels, and the struct inside it without one. -/
theorem layout_of_valve :
    valve.validate context = .ok () ∧ valve.RestoresAt 1 ∧
      (valve.writeDeclaration context).runOn ⟨.narrow, 1, ""⟩ =
        (⟨.narrow, 1, declared⟩, .ok ()) ∧
      declared = valve.layout context ⟨.narrow, 1⟩ ∧
      .label .visible ∈ valve.interior ∧ .label .hidden ∈ valve.interior := by
  have valid : valve.validate context = .ok () := rfl
  have restores : valve.RestoresAt 1 := by
    constructor
    · rintro _ (_ | ⟨_, ⟨⟩⟩) _ ⟨⟩
      exact Script.restores_ofLines ["return 9;"] 3
    · rintro _ (_ | ⟨_, ⟨⟩⟩)
      constructor
      · rintro _ (_ | ⟨_, ⟨⟩⟩) _ ⟨⟩
      · exact List.forall_mem_nil _
  obtain ⟨written, inTree⟩ := class_declaration_is_layout ⟨.narrow, 1, ""⟩ valid restores
  obtain ⟨-, -, visible, hidden⟩ := inTree valve valve.mem_tree_self
  have isLayout : declared = valve.layout context ⟨.narrow, 1⟩ := by decide +kernel
  refine ⟨valid, restores, ?written, isLayout, ?visible, ?hidden⟩
  case written =>
    rw [written, Sink.raw, String.empty_append, isLayout]
    rfl
  case visible => exact visible.mpr ⟨rfl, List.cons_ne_nil _ _⟩
  case hidden => exact hidden.mpr ⟨rfl, List.cons_ne_nil _ _, List.cons_ne_nil _ _⟩

end CppModel
