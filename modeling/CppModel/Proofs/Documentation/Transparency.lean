import CppModel.Proofs.Documentation.Splitting

/-!
# Documentation is transparent

When some elements lose their documentation, the fragments of what is written stay the same ones
in the same places, since the code between the notes is that of elements without documentation.
So the texts differ in these notes only, wherever the documentation has been in the tree.
-/

namespace CppModel

open Fragment

/-- The code is the same.  A note stands in the same place in front of the same form, and its
documentation is kept or gone. -/
inductive Fragment.LosesDocumentation : Fragment → Fragment → Prop
  | note (form : Form) (place : Place) {first second : Element} :
      first.LosesDocumentation second →
      second.documentation = first.documentation ∨ second.documentation = none →
      LosesDocumentation (.note form place first) (.note form place second)
  | code (text : String) : LosesDocumentation (.code text) (.code text)

theorem Element.LosesAlone.forall₂_ofAlone {first second : Element}
    (loses : first.LosesAlone second) (context : Context) (form : Form) (place : Place) :
    List.Forall₂ Fragment.LosesDocumentation (ofAlone context form place first)
      (ofAlone context form place second) := by
  have sameBare : first.bare = second.bare := loses.eq bare fun element _ => element.bare_bare
  have sameText : bareText context form place first = bareText context form place second := by
    rw [bareText, bareText, sameBare]
  have keptOrGone : second.documentation = first.documentation ∨ second.documentation = none := by
    obtain ⟨_, rfl | rfl⟩ := loses
    · exact .inl rfl
    · exact .inr first.documentation_bare
  rw [ofAlone, ofAlone, isWritten, isWritten, sameText]
  split
  · exact .cons (.note form place (.alone loses) keptOrGone) (.cons (.code _) .nil)
  · exact .nil

namespace Class.LosesDocumentation

variable {first second : Class}

theorem forall₂_ofClass (loses : first.LosesDocumentation second) (context : Context)
    (place : Place) :
    List.Forall₂ Fragment.LosesDocumentation (ofClass context place first)
      (ofClass context place second) := by
  refine induction_on_related (motive := fun first second => ∀ place,
    List.Forall₂ Fragment.LosesDocumentation (ofClass context place first)
      (ofClass context place second)) loses nested
    (fun first second loses inductionHypothesis place => ?_) place
  obtain ⟨publics, privates⟩ := loses.forall₂_members
    (fun member other => List.Forall₂ Fragment.LosesDocumentation
      (ofDeclaration context place.inner member) (ofDeclaration context place.inner other))
    (fun member other lost => by
      rw [ofDeclaration_of_isAlone lost.isAlone, ofDeclaration_of_isAlone lost.isClass_eq_false]
      exact lost.forall₂_ofAlone context .declaration place.inner)
    (inductionHypothesis.imp fun _ _ same => same place.inner)
  have inside : List.Forall₂ Fragment.LosesDocumentation (ofInterior context place first)
      (ofInterior context place second) := by
    rw [ofInterior, ofInterior, interior, interior, loses.parts.isStruct]
    exact List.rel_flatMap
      (Part.forall₂_ofSections (fun _ => .cons (.code _) .nil) publics privates _)
      fun _ _ same => same
  rw [ofClass_eq, ofClass_eq, ofBlock, ofBlock, loses.parts.head_eq]
  exact .cons (.note _ place (.inClass loses) loses.parts.documentation)
    (.cons (.code _) (List.rel_append inside (.cons (.code _) .nil)))

theorem forall₂_ofDefinitions (loses : first.LosesDocumentation second) (context : Context)
    (place : Place) :
    List.Forall₂ Fragment.LosesDocumentation (ofDefinitions context place first)
      (ofDefinitions context place second) := by
  have ofMembers := List.rel_map (fun _ _ lost => lost.forall₂_ofAlone context .definition place)
    loses.defined
  exact forall₂_paragraphs (.code _) ofMembers

end Class.LosesDocumentation

namespace Element

variable {context : Context}

/-- The fragments are the same ones, but for the documentation that is lost. -/
theorem LosesDocumentation.forall₂_fragments {first second : Element}
    (loses : first.LosesDocumentation second) (form : Form) (place : Place) :
    List.Forall₂ Fragment.LosesDocumentation (first.fragments context form place)
      (second.fragments context form place) := by
  cases loses with
  | alone loses =>
      rw [fragments_of_isAlone loses.isAlone, fragments_of_isAlone loses.isClass_eq_false]
      exact loses.forall₂_ofAlone context form place
  | inClass loses =>
      have declaration := loses.forall₂_ofClass context place
      have definitions := loses.forall₂_ofDefinitions context place
      cases form with
      | declaration => exact declaration
      | definition => exact definitions
      | own => exact forall₂_paragraphs (.code _) (.cons declaration (.cons definitions .nil))

theorem runOn_write_eq {element : Element} {form : Form} {script : Script} {sink : Sink}
    (rendered : element.rendering context form = .ok script)
    (restores : element.RestoresBeyond sink.level) :
    (element.write context form).runOn sink =
      (sink.raw (script.textAt sink.place.sink), .ok ()) := by
  have shape := element.hasShape_rendering context form script rendered
  have keepsLevel : script.Restores sink.place.level := fun other sameLevel => by
    have restored : (Script.run script other).1.level = other.level :=
      shape.level other fun content isBody => sameLevel ▸ restores.own isBody
    exact restored.trans sameLevel
  rw [element.carriesOut_write, rendered, Sink.write, keepsLevel.run_eq rfl]

/-- No class is written as a definition of its own. -/
theorem not_mem_writtenForms (element : Element) (form : Form) (place : Place) (owner : Class) :
    (Form.definition, Element.classType owner) ∉ element.writtenForms context form place := by
  have notAlone {elements : List Element} (alone : ∀ given ∈ elements, given.isClass = false)
      (given : Form) : (Form.definition, Element.classType owner) ∉
        (elements.filter (isWritten context given place)).map (given, ·) := by
    rw [List.mem_map]
    rintro ⟨_, kept, ⟨⟩⟩
    cases alone _ (List.mem_filter.mp kept).1
  have notDeclared (elements : List Element) :
      (Form.definition, Element.classType owner) ∉ elements.map (Form.declaration, ·) := by
    rw [List.mem_map]
    rintro ⟨_, _, ⟨⟩⟩
  cases element with
  | classType holder =>
      have notDefined := notAlone holder.isClass_of_mem_defined .definition
      cases form with
      | declaration => exact notDeclared holder.elements
      | definition => exact notDefined
      | own => exact List.not_mem_append (notDeclared holder.elements) notDefined
  | _ => exact notAlone (List.forall_mem_singleton.mpr rfl) form

end Element

/-- Two elements are written by fragments that differ in documentation alone.  The notes among
the fragments belong to the forms that are written, one to each, and a class has none in front
of its definitions. -/
structure WrittenButForNotes (context : Context) (form : Form) (sink : Sink)
    (first second : Element) : Prop where
  first_written : (first.write context form).runOn sink =
    (sink.raw (join (first.fragments context form sink.place)), .ok ())
  second_written : (second.write context form).runOn sink =
    (sink.raw (join (second.fragments context form sink.place)), .ok ())
  fragments : List.Forall₂ Fragment.LosesDocumentation (first.fragments context form sink.place)
    (second.fragments context form sink.place)
  leads : Leads context (first.fragments context form sink.place)
  noted_perm : (noted (first.fragments context form sink.place)).Perm
    (first.writtenForms context form sink.place)
  definition_unnoted : ∀ owner,
    (.definition, .classType owner) ∉ noted (first.fragments context form sink.place)

/-- Removing documentation from some elements changes nothing else.  The check says the same,
and each form either fails as before, and writes nothing, or it is written as before: the texts
are made up by the same fragments, where a note that is left out is an empty text.

Each form of an element that is written has one note, and it stands directly in front of it,
in its place.  These are all declarations, and the definitions that are not empty; a class has
none in front of its definitions. -/
theorem documentation_is_transparent {context : Context} {first second : Element}
    (loses : first.LosesDocumentation second) :
    first.validate context = second.validate context ∧
      ∀ (form : Form) (sink : Sink), first.RestoresBeyond sink.level →
        (∃ error, (first.write context form).runOn sink = (sink, .error error) ∧
          (second.write context form).runOn sink = (sink, .error error)) ∨
        WrittenButForNotes context form sink first second := by
  refine ⟨loses.validate_eq context, fun form sink restores => ?_⟩
  have outcomes := loses.failure?_rendering context form
  cases rendered : first.rendering context form with
  | error error =>
      rw [rendered, failure?_error, eq_comm, failure?_eq_some_iff] at outcomes
      refine .inl ⟨error, ?_⟩
      rw [first.carriesOut_write, second.carriesOut_write, rendered, outcomes]
      exact ⟨rfl, rfl⟩
  | ok script =>
      cases otherRendered : second.rendering context form with
      | error error =>
          rw [rendered, otherRendered] at outcomes
          cases outcomes
      | ok other =>
          obtain ⟨text, leads, noted⟩ := Element.isSplit_fragments sink.place rendered restores
          have otherRestores := loses.restoresBeyond restores
          obtain ⟨otherText, _, _⟩ :=
            Element.isSplit_fragments sink.place otherRendered otherRestores
          refine .inr ⟨?_, ?_, loses.forall₂_fragments form sink.place, leads, noted, ?_⟩
          · rw [Element.runOn_write_eq rendered restores, text]
          · rw [Element.runOn_write_eq otherRendered otherRestores, otherText]
          · exact fun owner listed => first.not_mem_writtenForms form sink.place owner
              (noted.subset listed)

namespace Pump

/-- A class with the given documentation, whose first method has the other one.  The rest of its
members is documented as well. -/
def pump (ofClass ofMethod : Option String) : Class :=
  ⟨{ scope := ⟨0⟩
     name := "Pump"
     documentation := ofClass
     functions := [
       .method { name := "limit", link := some ⟨0⟩, returnType := some "int",
                 modifiers := { isConstexpr := true }, body := some (.ofLines ["return 9;"]),
                 documentation := ofMethod },
       .method { name := "stop", link := some ⟨0⟩, returnType := some "void",
                 modifiers := { isVirtual := true, isPureVirtual := true },
                 documentation := some "// At once." }]
     dataMembers := [{ name := "s_count", type := "int", link := some ⟨0⟩, isStatic := true,
                       value := some "0", documentation := some "// All of them." }] }, []⟩

/-- The class with all of its notes. -/
def documented : Class := pump (some "// Moves water.") (some "// In litres.")

/-- The class without two of its notes. -/
def quiet : Class := pump none none

/-- The scopes of the class. -/
def context : Context := .ofScopes ⟨#[some ⟨"Pump", none, []⟩]⟩

/-- An empty sink one level in. -/
def sink : Sink := ⟨.narrow, 1, ""⟩

/-- What the class writes in the form that is its own, with the two notes. -/
def written (ofClass ofMethod : List String) : String :=
  String.join (ofClass ++ ["  class Pump \x7b\n", "  public:\n"] ++ ofMethod ++
    ["    constexpr int limit() \x7b\n", "      return 9;\n", "    \x7d\n",
      "    // At once.\n", "    virtual void stop() = 0;\n", "  private:\n",
      "    // All of them.\n", "    static int s_count;\n", "  \x7d;\n", "\n",
      "  // All of them.\n", "  int Pump::s_count = 0;\n"])

end Pump

open Pump in
/-- The class and its first method lose their notes, each of which stands in one place. -/
theorem documentation_of_pump :
    (Element.classType documented).LosesDocumentation (.classType quiet) ∧
      (Element.classType documented).RestoresBeyond sink.level ∧
      ((Element.classType documented).write context .own).runOn sink =
        (sink.raw (written ["  // Moves water.\n"] ["    // In litres.\n"]), .ok ()) ∧
      ((Element.classType quiet).write context .own).runOn sink =
        (sink.raw (written [] []), .ok ()) ∧
      List.Forall₂ Fragment.LosesDocumentation
        ((Element.classType documented).fragments context .own sink.place)
        ((Element.classType quiet).fragments context .own sink.place) := by
  have kept {Item : Type} (bare : Item → Item) (item : Item) : MayLose bare item item := .inl rfl
  have loses : (Element.classType documented).LosesDocumentation (.classType quiet) := by
    refine .inClass (.intro ⟨rfl, rfl, rfl, rfl, .inr rfl, .nil, ?functions, ?data, .nil⟩ .nil)
    case functions => exact .cons (.inr rfl) (.cons (kept _ _) .nil)
    case data => exact .cons (kept _ _) .nil
  have restores : (Element.classType documented).RestoresBeyond sink.level := by
    have elements : (Element.classType documented).withMembers =
      [.classType documented, .data _, .member _, .member _] := rfl
    rw [Element.RestoresBeyond, elements]
    simp only [List.forall_mem_cons]
    refine ⟨by rintro _ ⟨⟩, by rintro _ ⟨⟩, ?_, by rintro _ ⟨⟩, List.forall_mem_nil _⟩
    rintro _ ⟨⟩ level _
    exact Script.restores_ofLines ["return 9;"] level
  have texts : Fragment.join ((Element.classType documented).fragments context .own sink.place) =
        written ["  // Moves water.\n"] ["    // In litres.\n"] ∧
      Fragment.join ((Element.classType quiet).fragments context .own sink.place) =
        written [] [] := by
    decide +kernel
  rcases (documentation_is_transparent loses).2 .own sink restores with
    ⟨error, refused, _⟩ | ⟨first, second, fragments, _⟩
  · have succeeded : (((Element.classType documented).write context .own).runOn sink).2 = .ok () :=
      rfl
    rw [refused] at succeeded
    cases succeeded
  · rw [first, second, texts.1, texts.2]
    exact ⟨loses, restores, rfl, rfl, fragments⟩

end CppModel
