import CppModel.Proofs.Source.Entries

/-!
# Sources are joined entries

The text of a source is the list of its entries with a blank line between any two.  This
holds of the source of a class, whose chunks are joined where they are not the first, and
of the source of a unit, whose chunks are joined where there is something in front of them.

Where a definition fails, collecting ends there, and the entries in front of it are all that
has been collected.
-/

namespace CppModel

open Scope Procedure Process
open Rendering (bind_eq_ok_iff all_eq_ok_iff Gives gives_pure gives_error gives_bind)
open Script (EndsLine)

namespace Element

/-- The text of the entry of an element, in the place of a sink. -/
def entryAt (context : Context) (sink : Sink) (element : Element) : String :=
  (element.writeEntry context).textAt sink

/-- The entry of an element is its definition, and ends as an entry of the element should. -/
structure HasEntry (context : Context) (element : Element) : Prop where
  carriesOut : CarriesOut (element.writeEntry context) (element.definition context)
  endsLine : Gives (EndsLine element.closing) (element.definition context)

variable {context : Context} {element : Element}

theorem IsEntry.entryAt_ne_empty {sink : Sink} (isEntry : element.IsEntry context sink) :
    element.entryAt context sink ≠ "" := by
  obtain ⟨_, front, ends⟩ := isEntry
  rw [entryAt, ends]
  exact Script.append_newline_ne_empty _

/-- An entry whose definition succeeds is written, and as it should be. -/
theorem HasEntry.isEntry (hasEntry : element.HasEntry context) {script : Script}
    (succeeded : element.definition context = .ok script) (sink : Sink) :
    element.IsEntry context sink := by
  constructor
  · rw [hasEntry.carriesOut, succeeded]
    rfl
  · rw [hasEntry.carriesOut.textAt_eq, succeeded]
    exact hasEntry.endsLine script succeeded sink

/-- Of elements whose definitions succeed, the definitions have the texts of the entries. -/
theorem entries_of_definitions {elements : List Element} {scripts : List Script}
    (hasEntries : ∀ element ∈ elements, element.HasEntry context)
    (succeeded : elements.map (·.definition context) = scripts.map .ok) (sink : Sink) :
    scripts.map (Script.textAt sink) = elements.map (entryAt context sink) ∧
      ∀ element ∈ elements, element.IsEntry context sink := by
  constructor
  · apply Rendering.map_textAt_eq succeeded
    intro element listed script isDefinition
    rw [entryAt, (hasEntries element listed).carriesOut.textAt_eq, isDefinition]
    rfl
  · intro element listed
    obtain ⟨script, isDefinition⟩ := Rendering.exists_eq_ok_of_map_eq succeeded element listed
    exact (hasEntries element listed).isEntry isDefinition sink

theorem filter_entries {elements : List Element} {sink : Sink}
    (areEntries : ∀ element ∈ elements, element.IsEntry context sink) :
    (elements.map (entryAt context sink)).filter (! ·.isEmpty) =
      elements.map (entryAt context sink) := by
  apply List.filter_eq_self.mpr
  intro text listed
  obtain ⟨element, isElement, rfl⟩ := List.mem_map.mp listed
  simpa using (areEntries element isElement).entryAt_ne_empty

end Element

open Element (entryAt entries_of_definitions filter_entries)

/-! ## Classes -/

namespace Class

variable {context : Context} {owner : Class}

/-- The members that a kept class defines have entries. -/
theorem hasEntry_of_mem_defined (kept : owner.IsKept context.scopes) :
    ∀ element ∈ owner.defined, element.HasEntry context := by
  intro element listed
  obtain ⟨inner, inTree, isPart⟩ := List.mem_flatMap.mp listed
  have innerKept := kept inner inTree
  cases element, isPart using ClassParts.mem_defined_cases with
  | data content isMember needed =>
      have attached := innerKept.isAttached_data isMember
      exact ⟨(Element.data content).carriesOut_write context .definition,
        Variable.endsLine_definition attached needed⟩
  | array content isMember needed =>
      have attached := innerKept.isAttached_array isMember
      exact ⟨(Element.array content).carriesOut_write context .definition,
        ArrayVariable.endsLine_definition attached needed⟩
  | function content isMember needed =>
      refine ⟨(Element.member content).carriesOut_write context .definition, ?_⟩
      cases content with
      | method content => exact content.endsLine_definition context
      | constructor content => exact content.endsLine_definition context

/-- The source of a class is the list of its entries. -/
theorem textAt_definition (kept : owner.IsKept context.scopes) {script : Script}
    (succeeded : owner.definition context = .ok script) (sink : Sink) :
    script.textAt sink = "\n".intercalate (owner.defined.map (entryAt context sink)) ∧
      ∀ element ∈ owner.defined, element.IsEntry context sink := by
  obtain ⟨_, _, joined⟩ := (bind_eq_ok_iff _ _ _).mp succeeded
  obtain ⟨scripts, all, ⟨⟩⟩ := (bind_eq_ok_iff _ _ _).mp joined
  obtain ⟨total, visible⟩ :=
    Rendering.total_and_visible_of_all (owner.hasShape_definitions context) all
  rw [all_eq_ok_iff, definitions_eq_map_defined] at all
  obtain ⟨texts, areEntries⟩ :=
    entries_of_definitions (hasEntry_of_mem_defined kept) all sink
  refine ⟨?_, areEntries⟩
  rw [Script.textAt_paragraphs total, Script.map_textAt_nonempty visible, texts,
    filter_entries areEntries]

/-- The constructors of a valid class are neither pure virtual nor `constexpr`. -/
theorem constructors_plain (valid : owner.validate context = .ok ()) {constructor : Constructor}
    (listed : .member (.constructor constructor) ∈ owner.defined) (modifier : Modifier) :
    constructor.modifiers.has modifier = false := by
  obtain ⟨inner, inTree, isPart⟩ := List.mem_flatMap.mp listed
  have isElement : .member (.constructor constructor) ∈ owner.elements := by
    refine List.mem_flatMap.mpr ⟨inner, inTree, List.mem_cons_of_mem _ ?_⟩
    simp only [ClassParts.defined, List.mem_append, List.mem_map, List.mem_filter] at isPart
    simp only [ClassParts.elements, List.mem_append, List.mem_map]
    grind
  exact Constructor.has_eq_false (validate_of_mem_elements valid _ isElement) modifier

/-- Collecting ends at the first definition that fails, with the entries in front of it. -/
theorem collectDefinitions_eq_error (kept : owner.IsKept context.scopes) {template : Sink}
    {chunks after : List String} {error : Error}
    (ended : (owner.collectDefinitions context template).runOn chunks = (after, .error error)) :
    ∃ before failing rest, owner.defined = before ++ failing :: rest ∧
      (∀ element ∈ before, element.IsEntry context template) ∧
        ((failing.writeEntry context).runOn template.fork).2 = .error error ∧
          after = chunks ++ before.map (entryAt context template) := by
  rw [collects_collectDefinitions] at ended
  cases collected : template.collect (owner.definitions context) with
  | mk texts outcome =>
      rw [collected, Prod.mk.injEq] at ended
      obtain ⟨rfl, rfl⟩ := ended
      obtain ⟨scripts, others, definitions, rfl⟩ := Sink.collect_eq_error collected
      rw [definitions_eq_map_defined] at definitions
      obtain ⟨before, further, isList, front, back⟩ := List.map_eq_append_iff.mp definitions
      obtain ⟨failing, rest, rfl, fails, _⟩ := List.map_eq_cons_iff.mp back
      have hasEntries := hasEntry_of_mem_defined kept
      rw [isList] at hasEntries
      obtain ⟨beforeEntries, behindEntries⟩ := List.forall_mem_append.mp hasEntries
      obtain ⟨same, areEntries⟩ := entries_of_definitions beforeEntries front template
      refine ⟨before, failing, rest, isList, areEntries, ?_, ?_⟩
      · rw [(behindEntries failing List.mem_cons_self).carriesOut, fails]
        rfl
      · rw [same, filter_entries areEntries]

end Class

/-! ## Units -/

/-- Texts that are joined group by group are joined as one list. -/
theorem intercalate_flatten {groups : List (List String)} (nonempty : ∀ group ∈ groups, group ≠ [])
    (separator : String) :
    separator.intercalate (groups.map separator.intercalate) =
      separator.intercalate groups.flatten := by
  induction groups with
  | nil => rfl
  | cons group rest inductionHypothesis =>
      obtain ⟨groupNonempty, restNonempty⟩ := List.forall_mem_cons.mp nonempty
      cases rest with
      | nil => simp
      | cons second others =>
          have behind : (second :: others).flatten ≠ [] := by
            simp [restNonempty second List.mem_cons_self]
          rw [List.flatten_cons, String.intercalate_append_of_ne_nil groupNonempty behind,
            ← inductionHypothesis restNonempty]
          simp

/-- A group without texts leaves nothing to be joined. -/
theorem intercalate_filter {groups : List (List String)}
    (visible : ∀ group ∈ groups, ∀ text ∈ group, text ≠ "") (separator : String) :
    separator.intercalate ((groups.map separator.intercalate).filter (! ·.isEmpty)) =
      separator.intercalate groups.flatten := by
  have silent : ∀ group ∈ groups, (separator.intercalate group).isEmpty = group.isEmpty := by
    intro group listed
    cases group with
    | nil => simp
    | cons first others =>
        have firstVisible := visible _ listed first List.mem_cons_self
        cases others <;> simp [firstVisible]
  have kept : (groups.map separator.intercalate).filter (! ·.isEmpty) =
      (groups.filter (! ·.isEmpty)).map separator.intercalate := by
    rw [List.filter_map]
    congr 1
    exact List.filter_congr fun group listed => congrArg not (silent group listed)
  rw [kept, intercalate_flatten, List.flatten_filter_not_isEmpty]
  intro group listed
  simpa using (List.mem_filter.mp listed).2

namespace Element

variable {context : Context} {item : Element}

theorem hasEntry_function {function : FreeFunction} (notConstexpr : function.isConstexpr = false) :
    (Element.function function).HasEntry context := by
  have isRender : (Element.function function).definition context = function.render := by
    rw [definition, FreeFunction.definition, notConstexpr]
    rfl
  constructor
  · exact isRender ▸ function.carriesOut_writeOwn
  · exact isRender ▸ function.endsLine_render

/-- The source of a function or a class is the list of its entries. -/
theorem textAt_definition (kept : item.IsFunctionOrClass (·.IsKept context.scopes))
    {script : Script} (succeeded : item.definition context = .ok script) (sink : Sink) :
    script.textAt sink = "\n".intercalate (item.defined.map (entryAt context sink)) ∧
      ∀ element ∈ item.defined, element.IsEntry context sink := by
  cases item with
  | classType owner => exact Class.textAt_definition kept succeeded sink
  | function content =>
      rw [defined]
      cases isConstexpr : content.isConstexpr with
      | true =>
          rw [definition, FreeFunction.definition, isConstexpr] at succeeded
          obtain ⟨_, _, ⟨⟩⟩ := (bind_eq_ok_iff _ _ _).mp succeeded
          simp
      | false =>
          have alone : [Element.function content].map (·.definition context) = [script].map .ok :=
            congrArg ([·]) succeeded
          have entries := entries_of_definitions
            (List.forall_mem_singleton.mpr (hasEntry_function isConstexpr)) alone sink
          simpa using entries
  | _ => cases kept

end Element

namespace TranslationUnit

variable {context : Context} {unit : TranslationUnit}

/-- The source of a unit of functions and classes is the list of their entries. -/
theorem textAt_source (kept : unit.IsKept context.scopes) {script : Script}
    (succeeded : unit.source context = .ok script) (sink : Sink) :
    script.textAt sink = "\n".intercalate (unit.defined.map (entryAt context sink)) ∧
      ∀ element ∈ unit.defined, element.IsEntry context sink := by
  obtain ⟨_, _, joined⟩ := (bind_eq_ok_iff _ _ _).mp succeeded
  obtain ⟨scripts, all, ⟨⟩⟩ := (bind_eq_ok_iff _ _ _).mp joined
  obtain ⟨total, visible⟩ :=
    Rendering.total_and_visible_of_all (unit.hasShape_items context .definition) all
  rw [all_eq_ok_iff] at all
  have areEntries : ∀ element ∈ unit.defined, element.IsEntry context sink := by
    refine List.forall_mem_flatMap.mpr fun item listed => ?_
    obtain ⟨own, isDefinition⟩ := Rendering.exists_eq_ok_of_map_eq all item listed
    exact (Element.textAt_definition (kept item listed) isDefinition sink).2
  refine ⟨?_, areEntries⟩
  -- Each element is a group of entries, which the unit joins once more.
  have groups : scripts.map (Script.textAt sink) =
      (unit.items.map fun item => item.defined.map (entryAt context sink)).map
        "\n".intercalate := by
    rw [List.map_map]
    apply Rendering.map_textAt_eq all
    intro item listed own isDefinition
    exact (Element.textAt_definition (kept item listed) isDefinition sink).1
  rw [Script.textAt_paragraphs total, Script.map_textAt_nonempty visible, groups,
    intercalate_filter]
  · rw [defined, List.map_flatMap, List.flatMap_def]
  · intro group isGroup text isText
    obtain ⟨item, listed, rfl⟩ := List.mem_map.mp isGroup
    obtain ⟨element, isElement, rfl⟩ := List.mem_map.mp isText
    exact (areEntries element (List.mem_flatMap.mpr ⟨item, listed, isElement⟩)).entryAt_ne_empty

end TranslationUnit

/-- The source of a class and the source of a unit are their entries with a blank line
between any two.  Each entry is what its element writes on an empty sink in the same place,
ends a line, and is therefore not empty.

The entries of a class are its static variables, its static arrays, and its functions that
are neither pure virtual nor `constexpr`, and then those of its nested classes.  A constructor
is always among them, but is neither of the two in a class that has a source.

If a definition fails, exactly the entries in front of it have been collected. -/
theorem source_is_joined_entries (context : Context) :
    (∀ owner : Class, owner.Arises context.scopes → ∀ sink after,
      (owner.writeDefinition context).runOn sink = (after, .ok ()) →
        after.text = sink.text ++ "\n".intercalate (owner.defined.map (entryAt context sink)) ∧
          (∀ element ∈ owner.defined, element.IsEntry context sink) ∧
            ∀ constructor, .member (.constructor constructor) ∈ owner.defined →
              constructor.modifiers.isPureVirtual = false ∧
                constructor.modifiers.isConstexpr = false) ∧
      (∀ unit : TranslationUnit, unit.Arises context.scopes → ∀ sink after,
        (unit.write context .source).runOn sink = (after, .ok ()) →
          after.text = sink.text ++ "\n".intercalate (unit.defined.map (entryAt context sink)) ∧
            ∀ element ∈ unit.defined, element.IsEntry context sink) ∧
      ∀ owner : Class, owner.Arises context.scopes → ∀ template chunks after error,
        (owner.collectDefinitions context template).runOn chunks = (after, .error error) →
          ∃ before failing rest, owner.defined = before ++ failing :: rest ∧
            (∀ element ∈ before, element.IsEntry context template) ∧
              ((failing.writeEntry context).runOn template.fork).2 = .error error ∧
                after = chunks ++ before.map (entryAt context template) := by
  refine ⟨?classes, ?units, ?failures⟩
  case classes =>
    intro owner arises sink after written
    obtain ⟨script, succeeded, rfl⟩ :=
      ((owner.carriesOut_writeDefinition context).runOn_eq_ok_iff sink after).mp written
    obtain ⟨text, areEntries⟩ := Class.textAt_definition arises.isKept succeeded sink
    obtain ⟨_, valid, _⟩ := (bind_eq_ok_iff _ _ _).mp succeeded
    refine ⟨?_, areEntries, ?_⟩
    · rw [Script.text_run, text]
    · intro constructor listed
      have plain := Class.constructors_plain valid listed
      exact ⟨plain .pureVirtual, plain .constexpr⟩
  case units =>
    intro unit arises sink after written
    obtain ⟨script, succeeded, rfl⟩ :=
      ((unit.carriesOut_write context .source).runOn_eq_ok_iff sink after).mp written
    obtain ⟨text, areEntries⟩ := TranslationUnit.textAt_source arises.isKept succeeded sink
    refine ⟨?_, areEntries⟩
    rw [Script.text_run, text]
  case failures =>
    intro owner arises template chunks after error ended
    exact Class.collectDefinitions_eq_error arises.isKept ended

namespace Meter

/-- A class with a method and with a static variable in the class inside. -/
def meter : Class :=
  ⟨{ scope := ⟨0⟩
     name := "Meter"
     functions := [.method { name := "step", link := some ⟨0⟩, returnType := some "void",
                             body := some [.line "advance();"] }] },
    [⟨{ scope := ⟨1⟩
        name := "Slot"
        dataMembers := [{ name := "count", type := "int", link := some ⟨1⟩, isStatic := true,
                          value := some "1" }] }, []⟩]⟩

/-- A class with a method that has a body and one that has none. -/
def gauge : Class :=
  ⟨{ scope := ⟨2⟩
     name := "Gauge"
     functions := [.method { name := "read", link := some ⟨2⟩, returnType := some "int",
                             body := some [.line "return 1;"] },
                   .method { name := "reset", link := some ⟨2⟩ }] }, []⟩

/-- A program that makes the two classes. -/
def program : List Workspace.Action :=
  [.createClass "Meter", .createClass "Slot", .createClass "Gauge",
    .addMember ⟨1⟩ (.data { name := "count", type := "int", isStatic := true, value := some "1" }),
    .addMember ⟨0⟩ (.function (.method
      { name := "step", returnType := some "void", body := some [.line "advance();"] })),
    .addMember ⟨2⟩ (.function (.method
      { name := "read", returnType := some "int", body := some [.line "return 1;"] })),
    .addMember ⟨2⟩ (.function (.method { name := "reset" })),
    .addClass ⟨0⟩ ⟨1⟩].map .operate

/-- What the program leaves behind. -/
def workspace : Workspace where
  forest := ⟨#[some ⟨"Meter", none, ["Slot"]⟩, some ⟨"Slot", some ⟨0⟩, []⟩,
    some ⟨"Gauge", none, []⟩]⟩
  classes := [meter, gauge]

/-- The scopes as the program leaves them. -/
def context : Context := .ofScopes workspace.forest

/-- What a default sink holds when the source of the first class has been written. -/
def source : Sink :=
  ⟨.cpp, 0, "void Meter::step()\n\x7b\n    advance();\n\x7d\n\nint Meter::Slot::count = 1;\n"⟩

/-- The entry of the first method of the second class. -/
def gaugeEntry : String := "int Gauge::read()\n\x7b\n    return 1;\n\x7d\n"

end Meter

open Meter in
/-- The first class and a unit of it have a source of two entries.  Collecting from the second
class ends at the method without a body, with the entry of the one in front. -/
theorem entries_of_meter :
    Workspace.follow program {} = some workspace ∧
      (meter.writeDefinition context).runOn default = (source, .ok ()) ∧
      source.text = "\n".intercalate (meter.defined.map (entryAt context default)) ∧
      (TranslationUnit.write context ⟨[.classType meter]⟩ .source).runOn default =
        (source, .ok ()) ∧
      source.text = "\n".intercalate
        ((TranslationUnit.mk [.classType meter]).defined.map (entryAt context default)) ∧
      (gauge.collectDefinitions context default).runOn [] =
        ([gaugeEntry], .error (.missingImplementation .method "reset")) ∧
      ∃ before failing rest, gauge.defined = before ++ failing :: rest ∧
        [gaugeEntry] = before.map (entryAt context default) := by
  have followed : Workspace.follow program {} = some workspace := rfl
  have isMade : meter ∈ workspace.classes := List.mem_cons_self
  have isMadeToo : gauge ∈ workspace.classes := List.mem_cons_of_mem _ List.mem_cons_self
  obtain ⟨classes, units, failures⟩ := source_is_joined_entries context
  refine ⟨followed, rfl, ?classes, rfl, ?units, rfl, ?failures⟩
  case classes =>
    have arises : meter.Arises context.scopes :=
      ⟨program, workspace, followed, rfl, meter, isMade, meter.mem_tree_self⟩
    exact (classes meter arises default source rfl).1
  case units =>
    have arises : TranslationUnit.Arises context.scopes ⟨[.classType meter]⟩ :=
      ⟨program, workspace, followed, rfl, List.forall_mem_singleton.mpr isMade⟩
    exact (units _ arises default source rfl).1
  case failures =>
    have arises : gauge.Arises context.scopes :=
      ⟨program, workspace, followed, rfl, gauge, isMadeToo, gauge.mem_tree_self⟩
    obtain ⟨before, failing, rest, isList, _, _, collected⟩ :=
      failures gauge arises default [] _ _ rfl
    exact ⟨before, failing, rest, isList, collected⟩

end CppModel
