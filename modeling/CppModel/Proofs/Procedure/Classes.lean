import CppModel.Proofs.Procedure.Chunks

/-!
# Classes are written as they are rendered

The procedures that write a class carry out its declaration and its definition: the
former because it writes to a fork, and the latter because chunks that are joined read
like paragraphs.

The induction is on the tree of classes.  What it needs of a member is that it carries
out its own rendering, and that the script of this rendering is total and visible.
-/

namespace CppModel

open Procedure Process

namespace ClassParts

theorem carryOut_definitionProcedures (context : Context) (parts : ClassParts) :
    List.Forall₂ CarriesOut (parts.definitionProcedures context) (parts.definitions context) := by
  rw [definitionProcedures, definitions]
  refine List.rel_append (List.rel_append ?_ ?_) ?_
  · exact forall₂_map (fun data => data.carriesOut_writeDefinition context) _
  · exact forall₂_map (fun array => array.carriesOut_writeDefinition context) _
  · exact forall₂_map (fun function => function.carriesOut_writeDefinition context) _

end ClassParts

namespace Class

/-! ## Declarations -/

/-- The script of a label where there is one. -/
def labelScript (labelled : Bool) (label : String) : Script :=
  if labelled then [.label label] else []

theorem carriesOut_writeLabel (labelled : Bool) (label : String) :
    CarriesOut (writeLabel labelled label) (.ok (labelScript labelled label)) := by
  cases labelled with
  | false => exact carriesOut_nothing
  | true =>
      intro sink
      change _ = ((Script.run [.label label] sink).1, _)
      rw [Script.run_singleton, Step.run]
      rfl

theorem total_labelScript (labelled : Bool) (label : String) :
    (labelScript labelled label).Total := by
  intro sink
  cases labelled with
  | false => exact Script.total_nil sink
  | true =>
      change (Script.run [.label label] sink).2 = none
      rw [Script.run_singleton, Step.run]

/-- A section follows what it renders, where a section that is not there renders
nothing. -/
theorem follows_writeSection {present : Bool} (labelled : Bool) (label : String)
    {part : Procedure Unit} {rendering : Rendering} (follows : Follows part rendering)
    (absent : present = false → rendering = .ok []) :
    Follows (writeSection present labelled label part)
      (rendering.map fun script =>
        if present then labelScript labelled label ++ script else []) := by
  cases present with
  | false =>
      rw [absent rfl]
      exact carriesOut_nothing.follows
  | true =>
      have labelTotal := Rendering.total_ok (total_labelScript labelled label)
      have sectionFollows :=
        follows_append (carriesOut_writeLabel labelled label).follows follows labelTotal
      cases rendering with
      | error error => exact sectionFollows
      | ok script => exact sectionFollows

theorem total_section {present labelled : Bool} {label : String} {rendering : Rendering}
    (total : rendering.Total) :
    Rendering.Total (rendering.map fun script =>
      if present then labelScript labelled label ++ script else []) := by
  intro script equal
  cases rendering with
  | error error => cases equal
  | ok content =>
      cases equal
      cases present with
      | false => exact Script.total_nil
      | true => exact (total_labelScript labelled label).append (total content rfl)

/-- What stands between the braces of a class, or the first error of a member. -/
def membersRendering (context : Context) (owner : Class) : Rendering := do
  let publicPart ← Rendering.inRow (owner.publicDeclarations context)
  let privatePart ← Rendering.inRow (owner.privateDeclarations context)
  pure (owner.body publicPart privatePart)

/-- The members are the public section and then the private one. -/
theorem membersRendering_eq_append (context : Context) (owner : Class) :
    membersRendering context owner =
      Rendering.append
        ((Rendering.inRow (owner.publicDeclarations context)).map fun script =>
          if owner.hasPublic then
            labelScript (!owner.parts.isStruct) "public" ++ script
          else [])
        ((Rendering.inRow (owner.privateDeclarations context)).map fun script =>
          if owner.hasPrivate then
            labelScript (!owner.parts.isStruct && owner.hasPublic) "private" ++ script
          else []) := by
  rw [membersRendering]
  cases Rendering.inRow (owner.publicDeclarations context) with
  | error error => rfl
  | ok publicPart =>
      cases Rendering.inRow (owner.privateDeclarations context) with
      | error error => rfl
      | ok privatePart => rfl

theorem declaration_eq_membersRendering (context : Context) (owner : Class) :
    owner.declaration context = (do
      owner.validate context
      (membersRendering context owner).map fun members =>
        [.fork (Script.ofDoc owner.parts.documentation ++
          [.block owner.parts.header ";" members]) true]) := by
  rw [declaration_eq]
  unfold membersRendering Rendering.inRow
  cases owner.validate context with
  | error error => rfl
  | ok passed =>
      cases Rendering.all (owner.publicDeclarations context) with
      | error error => rfl
      | ok publicPart =>
          cases Rendering.all (owner.privateDeclarations context) with
          | error error => rfl
          | ok privatePart => rfl

/-- Without public members there is nothing to declare in the public section. -/
theorem publicDeclarations_of_hasPublic_eq_false (context : Context) {owner : Class}
    (noPublic : owner.hasPublic = false) : owner.publicDeclarations context = [] := by
  simp only [hasPublic, Bool.or_eq_false_iff, Bool.not_eq_false', List.isEmpty_iff] at noPublic
  rcases noPublic with ⟨⟨noEnumerations, noClasses⟩, noFunctions⟩
  simp [publicDeclarations, noEnumerations, noClasses, noFunctions, nestedDeclarations]

theorem privateDeclarations_of_hasPrivate_eq_false (context : Context) {owner : Class}
    (noPrivate : owner.hasPrivate = false) : owner.privateDeclarations context = [] := by
  simp only [hasPrivate, Bool.or_eq_false_iff, Bool.not_eq_false', List.isEmpty_iff] at noPrivate
  rcases noPrivate with ⟨noVariables, noArrays⟩
  simp [privateDeclarations, ClassParts.privateDeclarations, noVariables, noArrays]

theorem total_nestedDeclarations (context : Context) (nested : List Class) :
    ∀ rendering ∈ nestedDeclarations context nested, rendering.Total := by
  induction nested with
  | nil => simp [nestedDeclarations]
  | cons inner rest inductionHypothesis =>
      intro rendering member
      rw [nestedDeclarations, List.mem_cons] at member
      rcases member with rfl | later
      · exact (inner.hasShape_declaration context).total
      · exact inductionHypothesis rendering later

theorem total_enumerations (enumerations : List Enumeration) :
    ∀ rendering ∈ enumerations.map (·.declaration), rendering.Total := by
  intro rendering member
  rcases List.mem_map.mp member with ⟨enumeration, _, rfl⟩
  exact enumeration.hasShape_render.total

theorem total_functions (context : Context) (functions : List MemberFunction) :
    ∀ rendering ∈ functions.map (·.declaration context), rendering.Total := by
  intro rendering member
  rcases List.mem_map.mp member with ⟨function, _, rfl⟩
  exact (function.hasShape_declaration context).total

theorem total_publicDeclarations (context : Context) (owner : Class) :
    ∀ rendering ∈ owner.publicDeclarations context, rendering.Total := by
  intro rendering member
  rcases List.mem_append.mp member with inTypes | inFunctions
  · rcases List.mem_append.mp inTypes with inEnumerations | inNested
    · exact total_enumerations _ rendering inEnumerations
    · exact total_nestedDeclarations context owner.nested rendering inNested
  · exact total_functions context _ rendering inFunctions

theorem total_variables (context : Context) (data : List Variable) :
    ∀ rendering ∈ data.map (·.declaration context), rendering.Total := by
  intro rendering inList
  rcases List.mem_map.mp inList with ⟨member, _, rfl⟩
  exact (member.hasShape_declaration context).total

theorem follows_writePrivate (context : Context) (parts : ClassParts) :
    Follows (writePrivate context parts) (Rendering.inRow (parts.privateDeclarations context)) := by
  rw [ClassParts.privateDeclarations]
  rw [Rendering.inRow_append]
  apply follows_append
  · apply follows_each
    · exact forall₂_map (fun data => (data.carriesOut_writeDeclaration context).follows) _
    · exact total_variables context parts.dataMembers
  · apply follows_each
    · exact forall₂_map (fun array => (array.carriesOut_writeDeclaration context).follows) _
    · intro rendering member
      rcases List.mem_map.mp member with ⟨array, _, rfl⟩
      exact (array.hasShape_declaration context).total
  · exact Rendering.total_inRow (total_variables context parts.dataMembers)

/-- Writing the members follows their declarations, if writing the nested classes
does. -/
theorem follows_writeMembers (context : Context) (parts : ClassParts) (nested : List Class)
    {writeNested : Procedure Unit}
    (nestedFollows :
      Follows writeNested (Rendering.inRow (nestedDeclarations context nested))) :
    Follows
      (writeMembers ⟨parts, nested⟩
        (do
          each (parts.enumerations.map (·.writeOwn))
          writeNested
          each (parts.functions.map (·.writeDeclaration context)))
        (writePrivate context parts))
      (membersRendering context ⟨parts, nested⟩) := by
  have publicFollows : Follows
      (do
        each (parts.enumerations.map (·.writeOwn))
        writeNested
        each (parts.functions.map (·.writeDeclaration context)))
      (Rendering.inRow (publicDeclarations context ⟨parts, nested⟩)) := by
    rw [publicDeclarations]
    rw [List.append_assoc, Rendering.inRow_append, Rendering.inRow_append]
    have enumerationsFollow : Follows (each (parts.enumerations.map (·.writeOwn)))
        (Rendering.inRow (parts.enumerations.map (·.declaration))) :=
      follows_each (forall₂_map (fun enumeration => enumeration.carriesOut_writeOwn.follows) _)
        (total_enumerations parts.enumerations)
    have functionsFollow : Follows (each (parts.functions.map (·.writeDeclaration context)))
        (Rendering.inRow (parts.functions.map (·.declaration context))) :=
      follows_each
        (forall₂_map (fun function => (function.carriesOut_writeDeclaration context).follows) _)
        (total_functions context parts.functions)
    have nestedTotal := Rendering.total_inRow (total_nestedDeclarations context nested)
    have typesAndFunctions := follows_append nestedFollows functionsFollow nestedTotal
    exact follows_append enumerationsFollow typesAndFunctions
      (Rendering.total_inRow (total_enumerations parts.enumerations))
  have publicSection := follows_writeSection (!parts.isStruct) "public" publicFollows
    fun noPublic => by
      rw [publicDeclarations_of_hasPublic_eq_false context noPublic]
      rfl
  have privateSection := follows_writeSection (!parts.isStruct && hasPublic ⟨parts, nested⟩)
    "private" (follows_writePrivate context parts) fun noPrivate => by
      have absent : privateDeclarations context ⟨parts, nested⟩ = [] :=
        privateDeclarations_of_hasPrivate_eq_false context noPrivate
      unfold privateDeclarations at absent
      rw [absent]
      rfl
  have sections := follows_append publicSection privateSection
    (total_section (Rendering.total_inRow (total_publicDeclarations context ⟨parts, nested⟩)))
  have inOrder : membersRendering context ⟨parts, nested⟩ = _ := membersRendering_eq_append _ _
  rw [inOrder]
  exact sections

/-- A class is always declared by something. -/
theorem declaration_ne_nil (context : Context) {owner : Class} {script : Script}
    (declared : owner.declaration context = .ok script) : script ≠ [] := by
  rw [declaration_eq_membersRendering] at declared
  rcases (Rendering.bind_eq_ok_iff _ _ _).mp declared with ⟨_, _, rendered⟩
  cases members : membersRendering context owner with
  | error error =>
      rw [members] at rendered
      cases rendered
  | ok content =>
      rw [members] at rendered
      cases rendered
      exact List.cons_ne_nil _ _

mutual

/-- Writing the declaration of a class with forks and guarded blocks, member after
member, does the same to a sink as writing the declaration that is decided
beforehand. -/
theorem carriesOut_writeDeclaration (context : Context) :
    (owner : Class) → CarriesOut (owner.writeDeclaration context) (owner.declaration context)
  | ⟨parts, nested⟩ => by
      have members := follows_writeMembers context parts nested
        (follows_writeNestedDeclarations context nested)
      have docTotal := Rendering.total_ok (Script.total_ofDoc parts.documentation)
      have inside := follows_append (carriesOut_document parts.documentation).follows
        (follows_tryBlock parts.header ";" members) docTotal
      rw [declaration_eq_membersRendering, writeDeclaration]
      apply carriesOut_require
      intro _
      cases rendered : membersRendering context ⟨parts, nested⟩ with
      | error error =>
          rw [rendered] at inside
          apply carriesOut_whole inside (Rendering.total_append docTotal _)
          intro script equal
          cases equal
      | ok content =>
          rw [rendered] at inside
          apply carriesOut_whole inside
          intro script equal
          cases equal
          exact Script.total_documented_block _ _ _ _

theorem follows_writeNestedDeclarations (context : Context) :
    (nested : List Class) →
      Follows (writeNestedDeclarations context nested)
        (Rendering.inRow (nestedDeclarations context nested))
  | [] => carriesOut_nothing.follows
  | inner :: rest => by
      rw [nestedDeclarations, Rendering.inRow_cons, writeNestedDeclarations]
      exact follows_append (carriesOut_writeDeclaration context inner).follows
        (follows_writeNestedDeclarations context rest) (inner.hasShape_declaration context).total

end

/-! ## Definitions -/

mutual

/-- A class collects the texts of its definitions. -/
theorem collects_collectDefinitions (context : Context) (template : Sink) :
    (owner : Class) →
      Collector.Collects template (owner.collectDefinitions context template)
        (owner.definitions context)
  | ⟨parts, nested⟩ => by
      rw [collectDefinitions, definitions]
      exact Collector.collects_append
        (Collector.collects_each (parts.carryOut_definitionProcedures context))
        (collects_collectNested context template nested)

theorem collects_collectNested (context : Context) (template : Sink) :
    (nested : List Class) →
      Collector.Collects template (collectNested context template nested)
        (nestedDefinitions context nested)
  | [] => Collector.collects_nil template
  | inner :: rest => by
      rw [collectNested, nestedDefinitions]
      exact Collector.collects_append (collects_collectDefinitions context template inner)
        (collects_collectNested context template rest)

end

/-- Collecting the definitions of a class and joining the chunks does the same to a
sink as writing the definition that is decided beforehand. -/
theorem carriesOut_writeDefinition (context : Context) (owner : Class) :
    CarriesOut (owner.writeDefinition context) (owner.definition context) := by
  apply carriesOut_require
  intro _ sink
  rw [runOn_bind_ok (runOn_get sink), collects_collectDefinitions]
  rw [Rendering.paragraphs]
  cases collected : Rendering.all (owner.definitions context) with
  | error error =>
      rw [Sink.collect_of_all_eq_error sink collected]
      rfl
  | ok scripts =>
      rcases Rendering.total_and_visible_of_all (owner.hasShape_definitions context) collected with
        ⟨total, visible⟩
      rw [Rendering.all_eq_ok_iff] at collected
      rw [collected, Sink.collect_of_all_eq_ok, List.nil_append]
      change (sink.append (Collector.join sink.fork 0 _), _) =
        ((Script.run (Script.paragraphs scripts) sink).1, _)
      rw [Collector.join_zero, Script.run_paragraphs total, Script.map_textAt_nonempty visible]
      simp [Sink.append, Sink.raw, Sink.fork]

/-- A class that is written to two forks, of which the second may stay empty, is written
as it is rendered. -/
theorem carriesOut_writeOwn (context : Context) (owner : Class) :
    CarriesOut (owner.writeOwn context) (owner.render context) := by
  intro sink
  rw [writeOwn, runOn_bind_ok (runOn_get sink), render]
  unfold Rendering.paragraphs onFork
  rw [carriesOut_writeDeclaration, carriesOut_writeDefinition]
  have declarationShape := owner.hasShape_declaration context
  have definitionShape := owner.hasShape_definition context
  cases declared : owner.declaration context with
  | error error => rfl
  | ok header =>
      cases defined : owner.definition context with
      | error error => rfl
      | ok source =>
          have shapes : ∀ rendering ∈ [(.ok header : Rendering), .ok source],
              ∃ body, Rendering.HasShape body rendering := by
            intro rendering member
            simp only [List.mem_cons, List.not_mem_nil, or_false] at member
            rcases member with rfl | rfl
            · exact ⟨none, declared ▸ declarationShape⟩
            · exact ⟨none, defined ▸ definitionShape⟩
          rcases Rendering.total_and_visible_of_all shapes rfl with ⟨total, visible⟩
          have headerWrites :=
            visible header List.mem_cons_self (declaration_ne_nil context declared) sink
          change (sink.append (if (Script.run source sink.fork).1.isEmpty then _ else _), _) =
            ((Script.run (Script.paragraphs [header, source]) sink).1, _)
          rw [Script.run_paragraphs total, Script.map_textAt_nonempty visible]
          by_cases silent : source.textAt sink = ""
          · simp [Script.isEmpty_run_fork, Script.text_run_fork, silent, headerWrites, Sink.append]
          · simp [Script.isEmpty_run_fork, Script.text_run_fork, silent, headerWrites, Sink.append,
              Sink.blank]

end Class

end CppModel
