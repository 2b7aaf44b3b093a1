import CppModel.Proofs.Class.Tree
import CppModel.Proofs.Pieces.Shares
import CppModel.Proofs.Procedure.Classes
import Mathlib.Algebra.Order.Group.Multiset
import Mathlib.Tactic.Abel

/-!
# The pieces of classes

The elements of a class are the class itself, its members, and the elements of the classes
inside it.  The declaration of a class writes the shares of all of them in the header, and
its definitions write their shares in the source.

The two sides select and arrange the members in different ways.  A member that a side
leaves out has no share there, and an arrangement is a permutation.  The induction is on
the tree of classes.
-/

namespace CppModel

open Scope
open Rendering (WriteAll writeAll_map writeAll_flatMap writeAll_map_filter writes_bind
  writes_pure)

/-- The members of a class as elements, nested classes apart. -/
def ClassParts.elements (parts : ClassParts) : List Element :=
  parts.enumerations.map .enumeration ++ parts.dataMembers.map .data ++
    parts.arrays.map .array ++ parts.functions.map .member

/-- An element of a class is a member of one of four kinds. -/
@[elab_as_elim]
theorem ClassParts.mem_elements_cases {parts : ClassParts}
    {motive : (element : Element) → element ∈ parts.elements → Prop}
    (enumeration : ∀ content, content ∈ parts.enumerations →
      ∀ listed, motive (.enumeration content) listed)
    (data : ∀ content, content ∈ parts.dataMembers → ∀ listed, motive (.data content) listed)
    (array : ∀ content, content ∈ parts.arrays → ∀ listed, motive (.array content) listed)
    (function : ∀ content, content ∈ parts.functions → ∀ listed, motive (.member content) listed)
    (element : Element) (listed : element ∈ parts.elements) : motive element listed := by
  have kinds := listed
  simp only [elements, List.mem_append, List.mem_map] at kinds
  rcases kinds with ((⟨content, isMember, rfl⟩ | ⟨content, isMember, rfl⟩) |
    ⟨content, isMember, rfl⟩) | ⟨content, isMember, rfl⟩
  · exact enumeration content isMember listed
  · exact data content isMember listed
  · exact array content isMember listed
  · exact function content isMember listed

/-- The class, its members, and the elements of the classes inside it. -/
def Class.elements (owner : Class) : List Element :=
  owner.tree.flatMap fun inner => .classType inner :: inner.parts.elements

namespace Class

theorem elements_eq (owner : Class) :
    owner.elements =
      .classType owner :: (owner.parts.elements ++ owner.nested.flatMap elements) := by
  rw [elements, tree_eq, List.flatMap_cons, List.flatMap_assoc, List.cons_append]
  rfl

/-- What holds of all that a class is made from holds of the class itself, of its members and
of the classes inside it. -/
theorem forall_mem_elements_iff {owner : Class} {holds : Element → Prop} :
    (∀ element ∈ owner.elements, holds element) ↔
      holds (.classType owner) ∧ (∀ member ∈ owner.parts.elements, holds member) ∧
        ∀ inner ∈ owner.nested, ∀ element ∈ inner.elements, holds element := by
  rw [elements_eq, List.forall_mem_cons, List.forall_mem_append, List.forall_mem_flatMap]

/-- What stands for the elements of a class on one side. -/
def shares (context : Context) (side : Side) (owner : Class) : List Piece :=
  owner.elements.flatMap (·.share context side)

theorem shares_eq (context : Context) (side : Side) (owner : Class) :
    owner.shares context side =
      owner.share side ++ (owner.parts.elements.flatMap (·.share context side) ++
        owner.nested.flatMap (shares context side)) := by
  rw [shares, elements_eq, List.flatMap_cons, List.flatMap_append, List.flatMap_assoc]
  rfl

theorem definitions_eq (context : Context) (owner : Class) :
    owner.definitions context =
      owner.parts.definitions context ++ owner.nested.flatMap (definitions context) := by
  have together (nested : List Class) :
      nestedDefinitions context nested = nested.flatMap (definitions context) := by
    induction nested with
    | nil => rfl
    | cons inner rest inductionHypothesis =>
        rw [nestedDefinitions, inductionHypothesis, List.flatMap_cons]
  cases owner with
  | mk parts nested => rw [definitions, together]

end Class

/-! ## The members of one class -/

namespace ClassParts

variable {context : Context} {parts : ClassParts}

theorem IsKept.isAttached_data (kept : parts.IsKept context.scopes) {data : Variable}
    (listed : data ∈ parts.dataMembers) : context.scopes.isAttached data.link = true := by
  rw [kept.1.dataMembers data listed]
  exact kept.2

theorem IsKept.isAttached_array (kept : parts.IsKept context.scopes) {array : ArrayVariable}
    (listed : array ∈ parts.arrays) : context.scopes.isAttached array.link = true := by
  rw [kept.1.arrays array listed]
  exact kept.2

theorem writeAll_enumerations (context : Context) (parts : ClassParts) :
    WriteAll (parts.enumerations.map (·.declaration))
      ((parts.enumerations.map Element.enumeration).flatMap (·.share context .header)) := by
  rw [List.flatMap_map]
  exact writeAll_map fun enumeration _ => enumeration.writes_declaration

theorem writeAll_functions (context : Context) (parts : ClassParts) :
    WriteAll (parts.functions.map (·.declaration context))
      ((parts.functions.map Element.member).flatMap (·.share context .header)) := by
  rw [List.flatMap_map]
  exact writeAll_map fun function _ => function.writes_declaration context

theorem writeAll_privateDeclarations (kept : parts.IsKept context.scopes) :
    WriteAll (parts.privateDeclarations context)
      ((parts.dataMembers.map Element.data ++ parts.arrays.map Element.array).flatMap
        (·.share context .header)) := by
  rw [List.flatMap_append, List.flatMap_map, List.flatMap_map]
  apply WriteAll.append
  · exact writeAll_map fun data listed => Variable.writes_declaration (kept.isAttached_data listed)
  · exact writeAll_map fun array listed =>
      ArrayVariable.writes_declaration (kept.isAttached_array listed)

/-- The definitions of the members: a member that is left out has no share in the
source. -/
theorem writeAll_definitions (kept : parts.IsKept context.scopes) :
    WriteAll (parts.definitions context) (parts.elements.flatMap (·.share context .source)) := by
  have enumerations :
      (parts.enumerations.map Element.enumeration).flatMap (·.share context .source) = [] := by
    rw [List.flatMap_map]
    exact List.flatMap_eq_nil_iff.mpr fun _ _ => rfl
  rw [elements, List.flatMap_append, List.flatMap_append, List.flatMap_append, enumerations,
    List.nil_append, List.flatMap_map, List.flatMap_map, List.flatMap_map]
  refine (WriteAll.append ?_ ?_).append ?_
  · apply writeAll_map_filter
    · intro data listed needed
      exact Variable.writes_definition (kept.isAttached_data listed) needed
    · intro data notNeeded
      have isDeclaredOnly : (data.isStatic && !data.isConstexpr) = false := notNeeded
      rw [Element.share, Variable.share, isDeclaredOnly]
      rfl
  · apply writeAll_map_filter
    · intro array listed needed
      exact ArrayVariable.writes_definition (kept.isAttached_array listed) needed
    · intro array notNeeded
      have isDeclaredOnly : array.isStatic = false := notNeeded
      rw [Element.share, ArrayVariable.share, isDeclaredOnly]
      rfl
  · apply writeAll_map_filter
    · intro function _ needed
      exact MemberFunction.writes_definition context needed
    · intro function notNeeded
      exact MemberFunction.share_source_of_not_needed context notNeeded

end ClassParts

/-! ## Whole classes -/

namespace Class

variable {context : Context} {owner : Class} {publicPart privatePart : Script}
  {publicShare privateShare : List Piece}

/-- A section with its label, where a section that is not there is empty. -/
theorem writes_section {present : Bool} (labelled : Bool) (label : String)
    (writes : publicPart.Writes publicShare) (absent : present = false → publicPart = []) :
    Script.Writes
      (if present then (if labelled then [.label label] else []) ++ publicPart else [])
      ((if labelled && present then [.label label] else []) ++ publicShare) := by
  have labelWrites : Script.Writes [.label label] [.label label] :=
    Script.writes_step (total_labelScript true label) fun _ => .refl _
  cases present with
  | false =>
      rw [absent rfl] at writes
      rw [writes.share_eq_nil, Bool.and_false]
      exact Script.writes_nil
  | true =>
      cases labelled with
      | false => exact Script.writes_nil.append writes
      | true => exact labelWrites.append writes

/-- What stands between the braces of a class: the labels, and the two parts. -/
theorem writes_body (publicWrites : publicPart.Writes publicShare)
    (privateWrites : privatePart.Writes privateShare)
    (noPublic : owner.hasPublic = false → publicPart = [])
    (noPrivate : owner.hasPrivate = false → privatePart = []) :
    Script.Writes (owner.body publicPart privatePart)
      (owner.labels ++ (publicShare ++ privateShare)) := by
  have sections := (writes_section (!owner.parts.isStruct) "public" publicWrites noPublic).append
    (writes_section (!owner.parts.isStruct && owner.hasPublic) "private" privateWrites noPrivate)
  apply sections.perm
  rw [labels, List.append_assoc, List.append_assoc]
  exact (List.perm_append_comm_assoc _ _ _).append_left _

theorem writes_frame {share : List Piece}
    (bodyWrites : Script.Writes (owner.body publicPart privatePart) (owner.labels ++ share)) :
    Script.Writes (owner.frame publicPart privatePart) (owner.share .header ++ share) := by
  have whole := ((Script.writes_ofDoc owner.parts.documentation).append
    (bodyWrites.framed owner.parts.header)).fork
  rw [Class.share, List.append_assoc]
  exact whole

/-- The class in the header, given what its nested classes declare. -/
theorem writes_declaration_of_nested (kept : owner.parts.IsKept context.scopes)
    (nestedWrite : ∀ inner ∈ owner.nested,
      Rendering.Writes (inner.declaration context) (inner.shares context .header)) :
    Rendering.Writes (owner.declaration context) (owner.shares context .header) := by
  have publicWrite := ((owner.parts.writeAll_enumerations context).append
    (writeAll_map nestedWrite)).append (owner.parts.writeAll_functions context)
  rw [← publicDeclarations_eq] at publicWrite
  have privateWrite := ClassParts.writeAll_privateDeclarations kept
  rw [declaration_eq]
  apply writes_bind
  intro _ _
  apply writes_bind
  intro publicScripts publicRendered
  apply writes_bind
  intro privateScripts privateRendered
  apply writes_pure
  have noPublic : owner.hasPublic = false → publicScripts.flatten = [] := by
    intro absent
    rw [publicDeclarations_of_hasPublic_eq_false context absent] at publicRendered
    cases publicRendered
    rfl
  have noPrivate : owner.hasPrivate = false → privateScripts.flatten = [] := by
    intro absent
    rw [privateDeclarations_of_hasPrivate_eq_false context absent] at privateRendered
    cases privateRendered
    rfl
  have bodyWrites := writes_body (publicWrite.flatten publicRendered)
    (privateWrite.flatten privateRendered) noPublic noPrivate
  apply (writes_frame bodyWrites).perm
  rw [shares_eq, ClassParts.elements]
  apply List.Perm.append_left
  -- Only the nested classes and the functions stand in another place.
  simp only [List.flatMap_append, ← Multiset.coe_eq_coe, ← Multiset.coe_add]
  abel

/-- A kept class writes the shares of all its elements into the header. -/
theorem writes_declaration (kept : owner.IsKept context.scopes) :
    Rendering.Writes (owner.declaration context) (owner.shares context .header) := by
  induction owner using induction_on with
  | step parts nested inductionHypothesis =>
      rcases (forall_mem_tree_iff _ _).mp kept with ⟨partsKept, nestedKept⟩
      apply writes_declaration_of_nested partsKept
      intro inner listed
      exact inductionHypothesis inner listed (nestedKept inner listed)

/-- The definitions of a kept class write the shares of all its elements in the source. -/
theorem writeAll_definitions (kept : owner.IsKept context.scopes) :
    WriteAll (owner.definitions context) (owner.shares context .source) := by
  induction owner using induction_on with
  | step parts nested inductionHypothesis =>
      rcases (forall_mem_tree_iff _ _).mp kept with ⟨partsKept, nestedKept⟩
      rw [definitions_eq, shares_eq]
      apply WriteAll.append (ClassParts.writeAll_definitions partsKept)
      apply writeAll_flatMap
      intro inner listed
      exact inductionHypothesis inner listed (nestedKept inner listed)

theorem writes_definition (kept : owner.IsKept context.scopes) :
    Rendering.Writes (owner.definition context) (owner.shares context .source) :=
  writes_bind fun _ _ => (writeAll_definitions kept).paragraphs

end Class

end CppModel
