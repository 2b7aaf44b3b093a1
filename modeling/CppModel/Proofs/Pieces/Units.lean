import CppModel.Proofs.Class.Program
import CppModel.Proofs.Pieces.Classes
import CppModel.Proofs.Procedure.Units
import CppModel.Proofs.Validation.Classes

/-!
# Everything is defined once

A unit of functions and classes is split into a header and a source.  If both can be
rendered, what is on record when they are written is the shares of all elements, the members
of classes at any depth included, and nothing else.  So nothing is lost and nothing is
repeated: a body is run as often as there is an element that has it, and a value is written
as often as there is a variable with it.

That the body of an element is on one side only depends on the check that both sides make
first.  It refuses a pure virtual method with a body, which would be on no side, and a
`constexpr` constructor, whose body would be in the source all the same.
-/

namespace CppModel

open Rendering (writeAll_map writes_bind)

/-! ## Valid elements -/

namespace Class

/-- The classes inside a valid class are valid. -/
theorem validate_of_mem_tree {context : Context} {owner : Class}
    (valid : owner.validate context = .ok ()) :
    ∀ inner ∈ owner.tree, inner.validate context = .ok () := by
  induction owner using induction_on with
  | step parts nested inductionHypothesis =>
      have nestedValid := ((validate_eq_ok_iff context _).mp valid).1
      rw [forall_mem_tree_iff]
      exact ⟨valid, fun inner listed => inductionHypothesis inner listed (nestedValid inner listed)⟩

theorem validate_of_mem_elements {context : Context} {owner : Class}
    (valid : owner.validate context = .ok ()) :
    ∀ element ∈ owner.elements, element.validate context = .ok () := by
  intro element listed
  rcases List.mem_flatMap.mp listed with ⟨inner, inTree, isPart⟩
  have innerValid := validate_of_mem_tree valid inner inTree
  rcases List.mem_cons.mp isPart with rfl | isMember
  · exact innerValid
  have partsValid := ((validate_eq_ok_iff context inner).mp innerValid).2
  rcases (inner.parts.validate_eq_ok_iff context).mp partsValid with
    ⟨functionsValid, dataValid, arraysValid⟩
  cases element, isMember using ClassParts.mem_elements_cases with
  | enumeration content _ => rfl
  | data content inData => exact dataValid content inData
  | array content inArrays => exact arraysValid content inArrays
  | function content inFunctions => exact functionsValid content inFunctions

end Class

/-- The check of a constructor leaves it without modifiers. -/
theorem Constructor.has_eq_false {context : Context} {constructor : Constructor}
    (valid : constructor.validate context = .ok ()) (modifier : Modifier) :
    constructor.modifiers.has modifier = false :=
  ((checkPlain_eq_ok_iff constructor).mp (checkPlain_of_validate valid)).1 modifier

theorem Constructor.isConstexpr_eq_false {context : Context} {constructor : Constructor}
    (valid : constructor.validate context = .ok ()) :
    constructor.modifiers.isConstexpr = false :=
  has_eq_false valid .constexpr

/-! ## What an element has on a side -/

namespace Element

/-- Whether an element is `constexpr`. -/
def isConstexpr : Element → Bool
  | .function content => content.isConstexpr
  | .member (.method content) => content.modifiers.isConstexpr
  | .member (.constructor content) => content.modifiers.isConstexpr
  | .data content => content.isConstexpr
  | _ => false

/-- Whether an element is a pure virtual method. -/
def isPureVirtual : Element → Bool
  | .member (.method content) => content.modifiers.isPureVirtual
  | _ => false

/-- The body that is run for an element in the header, under its first line: that of a
`constexpr` function. -/
def headerRun? : Element → Option (String × Script)
  | .function content => if content.isConstexpr then content.body.map (content.header, ·) else none
  | .member (.method content) =>
      if content.modifiers.isConstexpr then content.body.map (content.header, ·) else none
  | _ => none

/-- The body that is run for an element in the source, under its first line: that of a
constructor, or of a function that is neither `constexpr` nor pure virtual. -/
def sourceRun? (context : Context) : Element → Option (String × Script)
  | .function content => if content.isConstexpr then none else content.body.map (content.header, ·)
  | .member (.method content) =>
      if content.modifiers.isPureVirtual || content.modifiers.isConstexpr then none
      else content.body.map (content.outerHeader context, ·)
  | .member (.constructor content) =>
      content.body.map (content.headerAs context (content.fullName context), ·)
  | _ => none

/-- The lines of an element in the header.  A variable shows its value there, unless it is
defined in the source, and an array shows no items. -/
def headerLines : Element → List String
  | .function content => if content.isConstexpr then [] else [content.header ++ ";"]
  | .member (.method content) =>
      if content.modifiers.isConstexpr then [] else [content.header ++ ";"]
  | .member (.constructor content) =>
      [Declarator.signature content.name content.arguments ++ ";"]
  | .data content =>
      [content.memberHead ++
        if content.isStatic && !content.isConstexpr then ";" else Variable.ending content.value]
  | .array content => [content.head ++ " " ++ content.name ++ "[" ++ content.memberSize ++ "];"]
  | .enumeration content => content.bodyLines
  | .classType _ => []

/-- The lines of an element in the source: the definition of a static variable that is not
`constexpr`, with its value, and that of a static array, with its items. -/
def sourceLines (context : Context) : Element → List String
  | .data content =>
      if content.isStatic && !content.isConstexpr then
        [content.outerHead context ++ Variable.ending content.value]
      else []
  | .array content =>
      if content.isStatic then
        [content.outerHead ++ " " ++ content.fullName context ++ "[" ++ content.sizeText ++ "]" ++
          ArrayVariable.ending content.items]
      else []
  | _ => []

end Element

/-! ## What a share holds -/

theorem Class.runs_labels (owner : Class) : Piece.runs owner.labels = [] := by
  rw [labels]
  split <;> split <;> rfl

theorem Class.lines_labels (owner : Class) : Piece.lines owner.labels = [] := by
  rw [labels]
  split <;> split <;> rfl

namespace Element

variable (context : Context) (element : Element)

theorem runs_share_header :
    Piece.runs (element.share context .header) = element.headerRun?.toList := by
  cases element with
  | function content =>
      rw [share, FreeFunction.share, headerRun?]
      split <;> simp
  | member content =>
      cases content with
      | method content =>
          rw [share, MemberFunction.share, Method.share, headerRun?]
          split <;> simp
      | constructor content => simp [share, MemberFunction.share, Constructor.share, headerRun?]
  | data content => simp [share, Variable.share, headerRun?]
  | array content => simp [share, ArrayVariable.share, headerRun?]
  | enumeration content => simp [share, Enumeration.share, headerRun?]
  | classType content => simp [share, Class.share, headerRun?, content.runs_labels]

theorem runs_share_source :
    Piece.runs (element.share context .source) = (element.sourceRun? context).toList := by
  cases element with
  | function content =>
      rw [share, FreeFunction.share, sourceRun?]
      split <;> simp
  | member content =>
      cases content with
      | method content =>
          cases isPureVirtual : content.modifiers.isPureVirtual <;>
            cases isConstexpr : content.modifiers.isConstexpr <;>
            simp [share, MemberFunction.share, Method.share, Method.needsDefinition, sourceRun?,
              isPureVirtual, isConstexpr]
      | constructor content => simp [share, MemberFunction.share, Constructor.share, sourceRun?]
  | data content =>
      have nothing : (Element.data content).sourceRun? context = none := rfl
      rw [share, Variable.share, nothing]
      split <;> simp
  | array content =>
      have nothing : (Element.array content).sourceRun? context = none := rfl
      rw [share, ArrayVariable.share, nothing]
      split <;> simp
  | enumeration content => rfl
  | classType content => rfl

theorem lines_share_header :
    Piece.lines (element.share context .header) = element.headerLines := by
  cases element with
  | function content =>
      rw [share, FreeFunction.share, headerLines]
      split <;> simp
  | member content =>
      cases content with
      | method content =>
          rw [share, MemberFunction.share, Method.share, headerLines]
          split <;> simp
      | constructor content => simp [share, MemberFunction.share, Constructor.share, headerLines]
  | data content => simp [share, Variable.share, headerLines]
  | array content => simp [share, ArrayVariable.share, headerLines]
  | enumeration content => simp [share, Enumeration.share, headerLines]
  | classType content => simp [share, Class.share, headerLines, content.lines_labels]

theorem lines_share_source :
    Piece.lines (element.share context .source) = element.sourceLines context := by
  cases element with
  | function content =>
      have nothing : (Element.function content).sourceLines context = [] := rfl
      rw [share, FreeFunction.share, nothing]
      split <;> simp
  | member content =>
      cases content with
      | method content =>
          have nothing : (Element.member (.method content)).sourceLines context = [] := rfl
          rw [share, MemberFunction.share, Method.share, nothing]
          split <;> simp
      | constructor content => simp [share, MemberFunction.share, Constructor.share, sourceLines]
  | data content =>
      rw [share, Variable.share, sourceLines]
      split <;> simp
  | array content =>
      rw [share, ArrayVariable.share, sourceLines]
      split <;> simp
  | enumeration content => rfl
  | classType content => rfl

/-- Nothing in the source is the frame of a class or an enumeration. -/
theorem frames_share_source : Piece.frames (element.share context .source) = [] := by
  cases element with
  | function content =>
      rw [share, FreeFunction.share]
      split <;> simp
  | member content =>
      cases content with
      | method content =>
          rw [share, MemberFunction.share, Method.share]
          split <;> simp
      | constructor content => simp [share, MemberFunction.share, Constructor.share]
  | data content =>
      rw [share, Variable.share]
      split <;> simp
  | array content =>
      rw [share, ArrayVariable.share]
      split <;> simp
  | enumeration content => rfl
  | classType content => rfl

end Element

/-! ## What the shares of all elements hold -/

namespace Element

section

variable (context : Context) (elements : List Element)

theorem runs_flatMap_share_header :
    Piece.runs (elements.flatMap (·.share context .header)) =
      elements.filterMap (·.headerRun?) := by
  rw [Piece.runs, List.filterMap_flatMap, List.filterMap_eq_flatMap_toList]
  exact List.flatMap_congr fun element _ => element.runs_share_header context

theorem runs_flatMap_share_source :
    Piece.runs (elements.flatMap (·.share context .source)) =
      elements.filterMap (·.sourceRun? context) := by
  rw [Piece.runs, List.filterMap_flatMap, List.filterMap_eq_flatMap_toList]
  exact List.flatMap_congr fun element _ => element.runs_share_source context

theorem lines_flatMap_share_header :
    Piece.lines (elements.flatMap (·.share context .header)) =
      elements.flatMap (·.headerLines) := by
  rw [Piece.lines, List.filterMap_flatMap]
  exact List.flatMap_congr fun element _ => element.lines_share_header context

theorem lines_flatMap_share_source :
    Piece.lines (elements.flatMap (·.share context .source)) =
      elements.flatMap (·.sourceLines context) := by
  rw [Piece.lines, List.filterMap_flatMap]
  exact List.flatMap_congr fun element _ => element.lines_share_source context

theorem frames_flatMap_share_source :
    Piece.frames (elements.flatMap (·.share context .source)) = [] := by
  rw [Piece.frames, List.filter_flatMap, List.flatMap_eq_nil_iff]
  exact fun element _ => element.frames_share_source context

end

variable {context : Context} {element : Element}

/-- The body that a valid element has run in the header is its own, if it is `constexpr`. -/
theorem headerRun?_map_snd (valid : element.validate context = .ok ()) :
    element.headerRun?.map Prod.snd = if element.isConstexpr then element.body else none := by
  have ownBody (header : String) (body : Option Script) :
      (body.map (header, ·)).map Prod.snd = body := by
    cases body <;> rfl
  cases element with
  | function content =>
      rw [headerRun?, isConstexpr]
      split
      · exact ownBody _ _
      · rfl
  | member content =>
      cases content with
      | method content =>
          rw [headerRun?, isConstexpr]
          split
          · exact ownBody _ _
          · rfl
      | constructor content =>
          have notConstexpr : (Element.member (.constructor content)).isConstexpr = false :=
            Constructor.isConstexpr_eq_false valid
          rw [notConstexpr]
          rfl
  | _ => exact (ite_self none).symm

/-- The body that a valid element has run in the source is its own, unless it is
`constexpr`.  A pure virtual method has no body that could be missing there. -/
theorem sourceRun?_map_snd (valid : element.validate context = .ok ()) :
    (element.sourceRun? context).map Prod.snd =
      if element.isConstexpr then none else element.body := by
  have ownBody (header : String) (body : Option Script) :
      (body.map (header, ·)).map Prod.snd = body := by
    cases body <;> rfl
  cases element with
  | function content =>
      rw [sourceRun?, isConstexpr]
      split
      · rfl
      · exact ownBody _ _
  | member content =>
      cases content with
      | method content =>
          rw [sourceRun?, isConstexpr]
          cases isPureVirtual : content.modifiers.isPureVirtual with
          | true =>
              have noBody := Method.body_eq_none_of_isPureVirtual valid isPureVirtual
              have bodiless : (Element.member (.method content)).body = none := noBody
              rw [bodiless]
              exact (ite_self none).symm
          | false =>
              cases content.modifiers.isConstexpr with
              | true => rfl
              | false => exact ownBody _ _
      | constructor content =>
          have notConstexpr : (Element.member (.constructor content)).isConstexpr = false :=
            Constructor.isConstexpr_eq_false valid
          rw [notConstexpr]
          exact ownBody _ _
  | _ => exact (ite_self none).symm

/-- The element, and all that it contains if it is a class. -/
def withMembers : Element → List Element
  | .classType owner => owner.elements
  | element => [element]

end Element

/-! ## Units -/

namespace TranslationUnit

/-- The elements of a unit, with the members of classes at any depth. -/
def elements (unit : TranslationUnit) : List Element :=
  unit.items.flatMap (·.withMembers)

variable {context : Context} {unit : TranslationUnit}

theorem validate_of_rendering {side : Side} {script : Script}
    (rendered : unit.rendering context side = .ok script) : unit.validate context = .ok () := by
  rw [rendering_eq] at rendered
  rcases (Rendering.bind_eq_ok_iff _ _ _).mp rendered with ⟨_, valid, _⟩
  exact valid

theorem validate_of_mem_elements (valid : unit.validate context = .ok ()) :
    ∀ element ∈ unit.elements, element.validate context = .ok () := by
  intro element listed
  rcases List.mem_flatMap.mp listed with ⟨item, inUnit, isPart⟩
  have itemValid := (validate_eq_ok_iff context unit).mp valid item inUnit
  cases item with
  | classType owner => exact Class.validate_of_mem_elements itemValid element isPart
  | _ =>
      rw [List.mem_singleton.mp isPart]
      exact itemValid

theorem writes_item {item : Element} (kept : item.IsFunctionOrClass (·.IsKept context.scopes))
    (side : Side) :
    Rendering.Writes (item.rendering context side.form)
      (item.withMembers.flatMap (·.share context side)) := by
  cases item with
  | function function =>
      have ownShare : (Element.function function).withMembers.flatMap (·.share context side) =
          function.share side :=
        List.flatMap_singleton _ _
      rw [ownShare]
      cases side with
      | header => exact function.writes_declaration
      | source => exact function.writes_definition
  | classType owner =>
      cases side with
      | header => exact Class.writes_declaration kept
      | source => exact Class.writes_definition kept
  | _ => cases kept

/-- A side of a unit writes the shares of its elements. -/
theorem writes_rendering (kept : unit.IsKept context.scopes) (side : Side) :
    Rendering.Writes (unit.rendering context side)
      (unit.elements.flatMap (·.share context side)) := by
  rw [rendering_eq, elements, List.flatMap_assoc]
  apply writes_bind
  intro _ _
  exact (writeAll_map fun item listed => writes_item (kept item listed) side).paragraphs

/-- A side of a unit has been written with a record: the run of the procedure ends in the sink
of the trace, and what it has added to the text is the texts of the entries.  A line is there
behind its margin, and a body between braces with all that its run writes. -/
structure IsTracedBy (context : Context) (unit : TranslationUnit) (side : Side) (sink : Sink)
    (trace : Trace) : Prop where
  runOn_eq : (unit.write context side).runOn sink = (trace.sink, .ok ())
  text_eq : trace.sink.text = sink.text ++ String.join (trace.entries.map (·.text))
  text_line : ∀ text place, ⟨.line text, place⟩ ∈ trace.entries →
    Entry.text ⟨.line text, place⟩ = place.margin ++ text ++ "\n"
  text_body : ∀ header content place, ⟨.body header content, place⟩ ∈ trace.entries →
    ∃ opened, opened = place.fork.openBlock header ∧
      Entry.text ⟨.body header content, place⟩ =
        opened.text ++ content.textAt opened ++
          (Script.run content opened).1.dedent.margin ++ "\x7d\n"

/-- The pieces of the header and the source of a unit, which define everything once. -/
structure DefinesOnce (context : Context) (unit : TranslationUnit) (header source : List Piece) :
    Prop where
  /-- Nothing but the shares of the elements is written, and each of them once. -/
  header_perm : header.Perm (unit.elements.flatMap (·.share context .header))
  source_perm : source.Perm (unit.elements.flatMap (·.share context .source))
  /-- The bodies that are run, each under its first line. -/
  runs_in_header : (Piece.runs header).Perm (unit.elements.filterMap (·.headerRun?))
  runs_in_source : (Piece.runs source).Perm (unit.elements.filterMap (·.sourceRun? context))
  /-- Every body is run once: in the header if its function is `constexpr`, and otherwise in
  the source. -/
  bodies_in_header : ((Piece.runs header).map Prod.snd).Perm
    ((unit.elements.filter (·.isConstexpr)).filterMap (·.body))
  bodies_in_source : ((Piece.runs source).map Prod.snd).Perm
    ((unit.elements.filter (! ·.isConstexpr)).filterMap (·.body))
  /-- Every value and every list of items is written once: in the source with the variable or
  the array that is defined there, and otherwise a value is in the header. -/
  lines_in_header : (Piece.lines header).Perm (unit.elements.flatMap (·.headerLines))
  lines_in_source : (Piece.lines source).Perm (unit.elements.flatMap (·.sourceLines context))
  /-- No class and no enumeration has its braces in the source. -/
  frames_in_source : Piece.frames source = []
  /-- A pure virtual method has no body, and nothing in the source. -/
  pureVirtual_absent : ∀ method, .member (.method method) ∈ unit.elements →
    method.modifiers.isPureVirtual = true →
      method.body = none ∧ method.share context .source = []

/-- Whenever both sides of the unit can be rendered, they are written, on any two sinks, such
that everything is defined once. -/
def DefinesEverythingOnce (context : Context) (unit : TranslationUnit) : Prop :=
  ∀ header source : Script, unit.header context = .ok header → unit.source context = .ok source →
    ∀ headerSink sourceSink : Sink,
      unit.IsTracedBy context .header headerSink (Script.trace header headerSink) ∧
        unit.IsTracedBy context .source sourceSink (Script.trace source sourceSink) ∧
        unit.DefinesOnce context (header.pieces headerSink) (source.pieces sourceSink)

theorem isTracedBy_of_rendering {side : Side} {script : Script}
    (rendered : unit.rendering context side = .ok script) (sink : Sink) :
    unit.IsTracedBy context side sink (Script.trace script sink) where
  runOn_eq := by
    rw [unit.carriesOut_write context side, rendered, Sink.write, Script.run_eq_trace]
  text_eq := Script.accounts_trace script sink
  text_line text place _ := Entry.text_line text place
  text_body header content place _ := ⟨_, rfl, Entry.text_body header content place⟩

theorem definesOnce_of_isKept (kept : unit.IsKept context.scopes) {header source : Script}
    (headerRendered : unit.rendering context .header = .ok header)
    (sourceRendered : unit.rendering context .source = .ok source)
    (headerSink sourceSink : Sink) :
    unit.DefinesOnce context (header.pieces headerSink) (source.pieces sourceSink) := by
  have inHeader := (writes_rendering kept .header header headerRendered).pieces_perm headerSink
  have inSource := (writes_rendering kept .source source sourceRendered).pieces_perm sourceSink
  have valid := validate_of_mem_elements (validate_of_rendering headerRendered)
  have headerRuns := (inHeader.filterMap Piece.run?).trans
    (.of_eq (Element.runs_flatMap_share_header context unit.elements))
  have sourceRuns := (inSource.filterMap Piece.run?).trans
    (.of_eq (Element.runs_flatMap_share_source context unit.elements))
  constructor
  case header_perm => exact inHeader
  case source_perm => exact inSource
  case runs_in_header => exact headerRuns
  case runs_in_source => exact sourceRuns
  case bodies_in_header =>
    refine (headerRuns.map Prod.snd).trans (.of_eq ?_)
    rw [List.map_filterMap, List.filterMap_filter]
    exact List.filterMap_congr fun element listed =>
      Element.headerRun?_map_snd (valid element listed)
  case bodies_in_source =>
    refine (sourceRuns.map Prod.snd).trans (.of_eq ?_)
    rw [List.map_filterMap, List.filterMap_filter]
    refine List.filterMap_congr fun element listed => ?_
    rw [Element.sourceRun?_map_snd (valid element listed)]
    cases element.isConstexpr <;> rfl
  case lines_in_header =>
    exact (inHeader.filterMap Piece.line?).trans
      (.of_eq (Element.lines_flatMap_share_header context unit.elements))
  case lines_in_source =>
    exact (inSource.filterMap Piece.line?).trans
      (.of_eq (Element.lines_flatMap_share_source context unit.elements))
  case frames_in_source =>
    have frames := (inSource.filter Piece.isFrame).trans
      (.of_eq (Element.frames_flatMap_share_source context unit.elements))
    exact frames.eq_nil
  case pureVirtual_absent =>
    intro method listed isPureVirtual
    constructor
    · exact Method.body_eq_none_of_isPureVirtual (valid _ listed) isPureVirtual
    · simp [Method.share, Method.needsDefinition, isPureVirtual]

theorem definesEverythingOnce_of_arises (arises : unit.Arises context.scopes) :
    unit.DefinesEverythingOnce context := by
  intro header source headerRendered sourceRendered headerSink sourceSink
  have isHeader : unit.rendering context .header = .ok header := headerRendered
  have isSource : unit.rendering context .source = .ok source := sourceRendered
  exact ⟨isTracedBy_of_rendering isHeader headerSink, isTracedBy_of_rendering isSource sourceSink,
    definesOnce_of_isKept arises.isKept isHeader isSource headerSink sourceSink⟩

/-- The header and the source of a unit define everything once.  This holds for every unit of
functions and of classes that a program has filled, and for the unit of every model.

What the two sides write is on record, and the text that they add is the texts of the record.
The bodies of `constexpr` functions are run in the header and all other ones in the source,
each of them once; a pure virtual method has none and nothing in the source.  A variable
shows its value on one side and a static array its items in the source.  Nothing of an
enumeration, of the braces of a class or of any other data member is in the source. -/
theorem header_and_source_define_once :
    (∀ (context : Context) (unit : TranslationUnit), unit.Arises context.scopes →
        unit.DefinesEverythingOnce context) ∧
      ∀ model : Model, model.build.1.DefinesEverythingOnce model.build.2 :=
  ⟨fun _ _ arises => definesEverythingOnce_of_arises arises,
    fun model => definesEverythingOnce_of_arises (arises_build model)⟩

/-- A class with methods of three kinds and with a static array, and a class with a static
variable inside. -/
def machineProgram : List Workspace.Action :=
  [.operate (.createClass "Machine"), .setHead ⟨0⟩ { base := some "Base" },
    .operate (.createClass "Slot"),
    .operate (.addMember ⟨1⟩ (.data
      { name := "count", type := "int", isStatic := true, value := some "1" })),
    .operate (.addMember ⟨0⟩ (.array
      { name := "sizes", type := "int", isStatic := true, items := ["2", "3"] })),
    .operate (.addMember ⟨0⟩ (.function (.method
      { name := "size", modifiers := .ofList [.constexpr], body := some [.line "return 1;"] }))),
    .operate (.addMember ⟨0⟩ (.function (.method
      { name := "step", body := some [.line "advance();"] }))),
    .operate (.addMember ⟨0⟩ (.function (.method
      { name := "stop", modifiers := .ofList [.virtual, .pureVirtual] }))),
    .operate (.addClass ⟨0⟩ ⟨1⟩)]

/-- The body of the `constexpr` method is run in the header and the other one in the
source, where the value and the items are. -/
theorem bodies_of_machine :
    ∃ workspace, Workspace.follow machineProgram {} = some workspace ∧
      ∃ header source,
        (ofFunctionsAndClasses [] workspace.classes).header (.ofScopes workspace.forest) =
            .ok header ∧
          (ofFunctionsAndClasses [] workspace.classes).source (.ofScopes workspace.forest) =
            .ok source ∧
          (Piece.runs (header.pieces default)).Perm [("constexpr size()", [.line "return 1;"])] ∧
          (Piece.runs (source.pieces default)).Perm [("Machine::step()", [.line "advance();"])] ∧
          (Piece.lines (source.pieces default)).Perm
            ["int Machine::sizes[] = \x7b2, 3\x7d;", "int Machine::Slot::count = 1;"] := by
  have followed : Workspace.follow machineProgram {} = some _ := rfl
  refine ⟨_, followed, _, _, rfl, rfl, ?_⟩
  have arises : Arises (Context.ofScopes _).scopes _ :=
    arises_ofFunctionsAndClasses followed [] fun _ => id
  rcases header_and_source_define_once.1 _ _ arises _ _ rfl rfl default default with
    ⟨_, _, defines⟩
  exact ⟨defines.runs_in_header, defines.runs_in_source, defines.lines_in_source⟩

end TranslationUnit

end CppModel
