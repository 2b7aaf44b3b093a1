import CppModel.Proofs.Documentation.Canonical
import CppModel.Proofs.Layout.Blocks
import CppModel.Proofs.Layout.Members
import CppModel.Proofs.Material.Classes

/-!
# Indentation is a shift

A text that is written in a place shifts with the place if, further in, every line of it stands
behind as many more indents, and an empty line stays empty.  Lines, documentation and blocks
shift; a label does in a block.  So what is made from texts without line feeds and from bodies
of lines shifts as a whole, and a class declares its members as they would be declared alone,
but for one indent in front of their lines.
-/

namespace CppModel

open Procedure Documentation Text
open Rendering (gives_pure)

/-- The text with the margin in front of every line that is not empty. -/
def shifted (margin : List Char) (text : String) : String :=
  String.ofList (mapLines (indentLine margin) text.toList)

theorem Style.margin_add (style : Style) (outer inner : Nat) :
    style.margin (outer + inner) = style.margin outer ++ style.margin inner := by
  rw [margin, List.replicate_add, List.flatten_append, margin, margin]

/-! ## Texts that shift with their place -/

/-- From the given depth on, the text consists of lines that stand behind as many more indents
as the place is further in. -/
def ShiftsFrom (depth : Nat) (text : Place → String) : Prop :=
  ∀ (style : Style) (level : Nat), depth ≤ level → ∃ lines : List (List Char),
    (∀ line ∈ lines, '\n' ∉ line) ∧ ∀ deeper,
      (text ⟨style, level + deeper⟩).toList =
        joinLines (lines.map (indentLine (style.margin deeper)))

namespace ShiftsFrom

variable {depth : Nat} {text first second : Place → String}

theorem toList_eq (shifts : ShiftsFrom depth text) {style : Style} {level : Nat}
    (deep : depth ≤ level) (deeper : Nat) :
    text ⟨style, level + deeper⟩ = shifted (style.margin deeper) (text ⟨style, level⟩) := by
  obtain ⟨lines, oneLine, texts⟩ := shifts style level deep
  have here := texts 0
  rw [Style.margin_zero, funext indentLine_nil_left, List.map_id'] at here
  rw [shifted, ← String.toList_inj, String.toList_ofList, texts deeper, Nat.add_zero] at *
  rw [here, mapLines_joinLines rfl oneLine]

theorem nothing : ShiftsFrom depth fun _ => "" :=
  fun _ _ _ => ⟨[], List.forall_mem_nil _, fun _ => rfl⟩

theorem append (shifts : ShiftsFrom depth first) (secondShifts : ShiftsFrom depth second) :
    ShiftsFrom depth fun place => first place ++ second place := by
  intro style level deep
  obtain ⟨lines, oneLine, texts⟩ := shifts style level deep
  obtain ⟨others, othersOneLine, otherTexts⟩ := secondShifts style level deep
  refine ⟨lines ++ others, List.forall_mem_append.mpr ⟨oneLine, othersOneLine⟩, fun deeper => ?_⟩
  rw [String.toList_append, texts, otherTexts, List.map_append, joinLines, joinLines, joinLines,
    List.flatMap_append]

/-- A text that shifts inside of a block shifts in the place of the block. -/
theorem inside (shifts : ShiftsFrom (depth + 1) text) :
    ShiftsFrom depth fun place => text place.inner := by
  intro style level deep
  obtain ⟨lines, oneLine, texts⟩ := shifts style (level + 1) (Nat.succ_le_succ deep)
  refine ⟨lines, oneLine, fun deeper => ?_⟩
  rw [← texts deeper, Nat.add_right_comm]
  rfl

/-- A text that reads inside of a block like one in the place of the block. -/
theorem outside (shifts : ShiftsFrom depth text)
    (same : ∀ place : Place, second place.inner = text place) : ShiftsFrom (depth + 1) second := by
  intro style level deep
  obtain ⟨outer, rfl⟩ := Nat.exists_eq_add_of_le' (Nat.one_le_of_lt deep)
  obtain ⟨lines, oneLine, texts⟩ := shifts style outer (Nat.succ_le_succ_iff.mp deep)
  refine ⟨lines, oneLine, fun deeper => ?_⟩
  rw [← texts deeper, ← same, Nat.add_right_comm]
  rfl

end ShiftsFrom

namespace Place

variable {depth : Nat}

theorem toList_line (place : Place) (text : String) :
    (place.line text).toList = place.style.margin place.level ++ text.toList ++ ['\n'] := by
  simp [line]

theorem shifts_blank : ShiftsFrom depth fun _ => "\n" :=
  fun _ _ _ => ⟨[[]], by simp, fun _ => by simp [joinLines, indentLine]⟩

theorem shifts_line {text : String} (oneLine : '\n' ∉ text.toList) (nonempty : text ≠ "") :
    ShiftsFrom depth (·.line text) := by
  intro style level _
  have noNewline := style.newline_not_mem_margin level
  refine ⟨[style.margin level ++ text.toList], by simp [oneLine, noNewline], fun deeper => ?_⟩
  rw [toList_line, List.map_singleton, indentLine_of_ne_nil _ (by simp [nonempty]), Nat.add_comm,
    Style.margin_add, joinLines, List.flatMap_singleton, List.append_assoc _ _ text.toList]

theorem label_inner (place : Place) (text : String) :
    place.inner.label text = place.line (text ++ ":") := by
  have ending : ":" ++ "\n" = ":\n" := rfl
  rw [label, line, ← ending, ← String.append_assoc, ← String.append_assoc]
  rfl

/-- A label stands in line with the braces, so it shifts inside of blocks only. -/
theorem shifts_label {text : String} (oneLine : '\n' ∉ text.toList) :
    ShiftsFrom (depth + 1) (·.label text) :=
  (shifts_line (by simp [oneLine]) (by simp)).outside (label_inner · text)

theorem shifts_documentation (documentation : Option String) :
    ShiftsFrom depth (·.documentation documentation) := by
  cases documentation with
  | none => exact .nothing
  | some text =>
      intro style level _
      refine ⟨_, newline_not_mem_documentation ⟨style, level⟩ text, fun deeper => ?_⟩
      rw [toList_documentation, List.map_map]
      congr 1
      refine List.map_congr_left fun line _ => ?_
      rw [Function.comp_apply, indentLine_indentLine, ← Style.margin_add, Nat.add_comm]

theorem shifts_opening {header : String} (oneLine : '\n' ∉ header.toList) :
    ShiftsFrom depth (·.opening header) := by
  have brace : ShiftsFrom depth (·.line "\x7b") := shifts_line (by decide) (by decide)
  intro style level deep
  cases braces : style.braces with
  | nextLine =>
      by_cases empty : header.isEmpty
      · simpa only [opening, braces, if_pos empty] using
          ShiftsFrom.nothing.append brace style level deep
      · have headed : ShiftsFrom depth (·.line header) :=
          shifts_line oneLine (mt String.isEmpty_iff.mpr empty)
        simpa only [opening, braces, if_neg empty] using headed.append brace style level deep
  | sameLine =>
      by_cases empty : header.isEmpty
      · simpa only [opening, braces, if_pos empty] using brace style level deep
      · have headed : ShiftsFrom depth (·.line (header ++ " \x7b")) :=
          shifts_line (by simp [oneLine]) (by simp)
        simpa only [opening, braces, if_neg empty] using headed style level deep

theorem shifts_block {header closing : String} {inside : Place → String}
    (oneLine : '\n' ∉ header.toList) (closingOneLine : '\n' ∉ closing.toList)
    (shifts : ShiftsFrom (depth + 1) inside) :
    ShiftsFrom depth fun place => place.block header closing (inside place.inner) := by
  have last : ShiftsFrom depth (·.line ("\x7d" ++ closing)) :=
    shifts_line (by simp [closingOneLine]) (by simp)
  exact ((shifts_opening oneLine).append shifts.inside).append last

end Place

/-! ## Scripts that shift with their place -/

namespace Script

/-- The script prints a text that shifts with its place. -/
def ShiftsFrom (depth : Nat) (script : Script) : Prop :=
  ∃ text, CppModel.ShiftsFrom depth text ∧ ∀ place, script.Prints place (text place)

variable {depth : Nat} {first second : Script}

theorem ShiftsFrom.append (shifts : first.ShiftsFrom depth)
    (secondShifts : second.ShiftsFrom depth) : ShiftsFrom depth (first ++ second) := by
  obtain ⟨text, textShifts, prints⟩ := shifts
  obtain ⟨secondText, secondTextShifts, secondPrints⟩ := secondShifts
  exact ⟨_, textShifts.append secondTextShifts,
    fun place => (prints place).append (secondPrints place)⟩

theorem shiftsFrom_nil : ShiftsFrom depth [] :=
  ⟨_, .nothing, prints_nil⟩

theorem shiftsFrom_line {text : String} (oneLine : '\n' ∉ text.toList) (nonempty : text ≠ "") :
    ShiftsFrom depth [.line text] :=
  ⟨_, Place.shifts_line oneLine nonempty, fun place => prints_line place text⟩

theorem shiftsFrom_ofLines {texts : List String}
    (plain : ∀ text ∈ texts, text ≠ "" ∧ '\n' ∉ text.toList) :
    (ofLines texts).ShiftsFrom depth := by
  induction texts with
  | nil => exact shiftsFrom_nil
  | cons first rest inductionHypothesis =>
      obtain ⟨⟨nonempty, oneLine⟩, restPlain⟩ := List.forall_mem_cons.mp plain
      exact (shiftsFrom_line oneLine nonempty).append (inductionHypothesis restPlain)

end Script

/-! ## Material without line feeds -/

/-- The text has no line feed. -/
def IsOneLine (text : String) : Prop :=
  '\n' ∉ text.toList

theorem isCompositional_isOneLine : IsCompositional IsOneLine where
  plain plain listed := absurd (plain '\n' listed) (by decide)
  append first second := by
    rw [IsOneLine, String.toList_append, List.mem_append, not_or]
    exact ⟨first, second⟩
  inBraces oneLine := by simpa [IsOneLine] using oneLine
  behind _ oneLine := by
    rw [IsOneLine, String.toList_append, List.mem_append, not_or] at oneLine
    exact oneLine.2

/-- Texts without line feeds, any documentation, and bodies of lines that are not empty. -/
def Material.plain : Material where
  text := IsOneLine
  documentation _ := True
  body content := ∃ lines, content = Script.ofLines lines ∧
    ∀ line ∈ lines, line ≠ "" ∧ IsOneLine line

/-- What is made from such material shifts with its place. -/
theorem Script.MadeOf.shiftsFrom {depth : Nat} {script : Script}
    (made : script.MadeOf .plain depth) : script.ShiftsFrom depth := by
  induction made with
  | nothing => exact shiftsFrom_nil
  | append _ _ first second => exact first.append second
  | doc _ =>
      exact ⟨_, Place.shifts_documentation (some _), fun place => prints_ofDoc place (some _)⟩
  | line oneLine nonempty => exact shiftsFrom_line oneLine nonempty
  | blank =>
      exact ⟨_, Place.shifts_blank, fun _ sink _ => by rw [run_singleton]; rfl⟩
  | label oneLine => exact ⟨_, Place.shifts_label oneLine, fun place => prints_label_step place _⟩
  | block headerOneLine closingOneLine _ inside =>
      obtain ⟨text, shifts, prints⟩ := inside
      exact ⟨_, Place.shifts_block headerOneLine closingOneLine shifts,
        fun place => prints_block _ _ (prints place.inner).run_fst_eq⟩
  | fork _ inside =>
      obtain ⟨text, shifts, prints⟩ := inside
      exact ⟨text, shifts, fun place => (prints place).fork⟩
  | body content =>
      obtain ⟨lines, rfl, plain⟩ := content
      exact shiftsFrom_ofLines plain

/-! ## Writing at a level -/

theorem shifted_empty (margin : List Char) : shifted margin "" = "" := by
  rw [shifted, String.toList_empty, mapLines_of_not_mem _ List.not_mem_nil]
  rfl

instance (text : String) : Decidable (IsOneLine text) :=
  inferInstanceAs (Decidable ('\n' ∉ text.toList))

namespace Procedure

/-- At every level, the procedure writes what it writes at the outermost one, with the margin of
the level in front of each line that is not empty, and it ends in the same way. -/
def ShiftsWithLevel (procedure : Procedure Unit) : Prop :=
  ∀ style, ∃ text outcome, procedure.runOn ⟨style, 0, ""⟩ = (⟨style, 0, text⟩, outcome) ∧
    ∀ level before, procedure.runOn ⟨style, level, before⟩ =
      (⟨style, level, before ++ shifted (style.margin level) text⟩, outcome)

theorem CarriesOut.shiftsWithLevel {procedure : Procedure Unit} {rendering : Rendering}
    (carriesOut : CarriesOut procedure rendering) (made : rendering.MadeOf .plain 0) :
    ShiftsWithLevel procedure := by
  intro style
  cases rendering with
  | error error =>
      refine ⟨"", .error error, carriesOut _, fun level before => ?_⟩
      rw [carriesOut, shifted_empty, String.append_empty]
      rfl
  | ok script =>
      obtain ⟨text, shifts, prints⟩ := (made script rfl).shiftsFrom
      refine ⟨text ⟨style, 0⟩, .ok (), ?_, fun level before => ?_⟩
      · rw [carriesOut, Sink.write, prints ⟨style, 0⟩ _ rfl, Sink.raw, String.empty_append]
      · rw [carriesOut, Sink.write, prints ⟨style, level⟩ _ rfl, ← shifts.toList_eq (Nat.zero_le 0),
          Nat.zero_add]
        rfl

end Procedure

/-! ## Members in their class -/

/-- Bodies of lines restore every level. -/
theorem Element.restoresBeyond_of_plain {context : Context} {element : Element} (level : Nat)
    (made : ∀ part ∈ element.withMembers, part.MadeOf .plain context) :
    element.RestoresBeyond level := by
  intro part isPart content isBody deeper _
  obtain ⟨lines, rfl, _⟩ := (made part isPart).body content isBody
  exact Script.restores_ofLines lines deeper

/-- One level further in, a valid element that is made from plain material is declared behind
one more indent. -/
theorem Element.layout_inner {context : Context} {element : Element}
    (valid : element.validate context = .ok ())
    (made : ∀ part ∈ element.withMembers, part.MadeOf .plain context) (place : Place) :
    element.layout context place.inner =
      shifted (place.style.margin 1) (element.layout context place) := by
  obtain ⟨script, rendered, prints⟩ :=
    prints_declaration valid (restoresBeyond_of_plain place.level made)
  obtain ⟨same, renderedSame, innerPrints⟩ :=
    prints_declaration valid (restoresBeyond_of_plain place.inner.level made)
  rw [rendered] at renderedSame
  cases renderedSame
  -- One script is laid out in both places, so the two layouts are the text that it shifts.
  have isMade : (element.declaration context).MadeOf .plain 0 :=
    Element.madeOf_rendering isCompositional_isOneLine made .declaration
  obtain ⟨text, shifts, textPrints⟩ := (isMade script rendered).shiftsFrom
  rw [← innerPrints.textAt_eq, ← prints.textAt_eq, (textPrints place.inner).textAt_eq,
    (textPrints place).textAt_eq]
  exact shifts.toList_eq (Nat.zero_le place.level) 1

/-- Where no string of an element has a line feed, documentation apart, and the bodies are lines
that are not empty, the element reads the same at every level in each of its forms, but for the
margin of the level in front of the lines that are not empty, and so does a unit on either side.

A valid class declares each member as the member declares itself in the place of the class,
behind one more indent. -/
theorem indentation_is_a_shift (context : Context) :
    (∀ item : Element, (∀ element ∈ item.withMembers, element.MadeOf .plain context) →
        ∀ form, ShiftsWithLevel (item.write context form)) ∧
      (∀ unit : TranslationUnit, (∀ element ∈ unit.elements, element.MadeOf .plain context) →
        ∀ side, ShiftsWithLevel (unit.write context side)) ∧
      ∀ (owner : Class) (place : Place), owner.validate context = .ok () →
        (∀ element ∈ owner.elements, element.MadeOf .plain context) →
          (∀ member ∈ owner.publicMembers ++ owner.privateMembers,
            (member.write context .declaration).runOn place.sink =
              (place.sink.raw (member.layout context place), .ok ())) ∧
            (owner.writeDeclaration context).runOn place.sink =
              (place.sink.raw
                (place.documentation owner.parts.documentation ++
                  place.block owner.parts.head ";"
                    (String.join (owner.interior.map (Part.text place fun member =>
                      shifted (place.style.margin 1) (member.layout context place))))),
                .ok ()) := by
  refine ⟨fun item made form => ?item, fun unit made side => ?unit,
    fun owner place valid made => ?members⟩
  case item =>
    exact (item.carriesOut_write context form).shiftsWithLevel
      (Element.madeOf_rendering isCompositional_isOneLine made form)
  case unit =>
    exact (unit.carriesOut_write context side).shiftsWithLevel
      (TranslationUnit.madeOf_rendering isCompositional_isOneLine made side)
  case members =>
    have memberValid : ∀ member ∈ owner.publicMembers ++ owner.privateMembers,
        member.validate context = .ok () := fun _ isMember =>
      Class.validate_of_mem_members valid isMember
    have memberMade : ∀ member ∈ owner.publicMembers ++ owner.privateMembers,
        ∀ part ∈ member.withMembers, part.MadeOf .plain context := fun _ isMember part isPart =>
      made part (Class.mem_elements_of_mem_members isMember isPart)
    constructor
    · intro member isMember
      obtain ⟨script, rendered, prints⟩ :=
        Element.prints_declaration (memberValid member isMember)
          (Element.restoresBeyond_of_plain place.level (memberMade member isMember))
      have carriesOut := member.carriesOut_write context .declaration place.sink
      rw [carriesOut, Element.rendering, rendered, Sink.write, prints place.sink rfl]
    · have restores : (Element.classType owner).RestoresBeyond place.level :=
        Element.restoresBeyond_of_plain place.level made
      obtain ⟨script, rendered, prints⟩ := Class.prints_declaration valid restores.restoresAt
      have inClass : owner.interior.map (Part.text place (·.layout context place.inner)) =
          owner.interior.map (Part.text place fun member =>
            shifted (place.style.margin 1) (member.layout context place)) := by
        refine List.map_congr_left fun part listed => ?_
        cases part with
        | label access => rfl
        | member content =>
            have isMember := Part.mem_of_member_mem_ofSections listed
            exact content.layout_inner (memberValid content isMember) (memberMade content isMember)
              place
      rw [owner.carriesOut_writeDeclaration context, rendered, Sink.write, prints place.sink rfl,
        Class.layout_eq, inClass]

namespace Engine

/-- A class with documentation that has a blank line, and with a class inside. -/
def engine : Class :=
  ⟨{ scope := ⟨0⟩
     name := "Engine"
     documentation := some "// Turns.\n\n// Slowly."
     dataMembers := [{ name := "s_count", type := "int", link := some ⟨0⟩, isStatic := true,
                       value := some "0" }] },
    [⟨{ scope := ⟨1⟩
        name := "Gear"
        functions := [.method { name := "teeth", link := some ⟨1⟩, returnType := some "int",
                                modifiers := { isConstexpr := true },
                                body := some (.ofLines ["return 12;"]) }] }, []⟩]⟩

/-- The scopes of the two classes. -/
def context : Context :=
  .ofScopes ⟨#[some ⟨"Engine", none, ["Gear"]⟩, some ⟨"Gear", some ⟨0⟩, []⟩]⟩

/-- The declaration of the class inside. -/
def gear : String :=
  String.join ["class Gear \x7b\n", "public:\n", "\tconstexpr int teeth() \x7b\n",
    "\t\treturn 12;\n", "\t\x7d\n", "\x7d;\n"]

/-- The declaration at the outermost level. -/
def declared : String :=
  String.join ["// Turns.\n", "\n", "// Slowly.\n", "class Engine \x7b\n", "public:\n",
    shifted ['\t'] gear, "private:\n", "\tstatic int s_count;\n", "\x7d;\n"]

end Engine

open Engine in
/-- The class reads alike at each level, and so does the class inside of it. -/
theorem indentation_of_engine :
    (∀ element ∈ engine.elements, element.MadeOf .plain context) ∧
      engine.validate context = .ok () ∧
      (engine.writeDeclaration context).runOn ⟨.tabbed, 2, "// Parts\n"⟩ =
        (⟨.tabbed, 2, "// Parts\n" ++ shifted ['\t', '\t'] declared⟩, .ok ()) ∧
      ShiftsWithLevel ((Element.classType engine).write context .definition) ∧
      ShiftsWithLevel ((⟨[.classType engine]⟩ : TranslationUnit).write context .source) ∧
      (engine.writeDeclaration context).runOn (Place.sink ⟨.tabbed, 0⟩) =
        (⟨.tabbed, 0, declared⟩, .ok ()) := by
  have valid : engine.validate context = .ok () := rfl
  have madeOf (element : Element) (strings : ∀ text ∈ element.bare.strings context, IsOneLine text)
      (body : ∀ content ∈ element.body, Material.plain.body content)
      (around : ∀ outer ∈ context.scopes.namesAround (element.link context.scopes),
        IsOneLine outer) :
      element.MadeOf .plain context := ⟨strings, fun _ _ => trivial, body, around⟩
  have made : ∀ element ∈ engine.elements, element.MadeOf .plain context := by
    have ofClass : engine.elements = [.classType engine, _, .classType _, _] := rfl
    rw [ofClass]
    simp only [List.forall_mem_cons]
    refine ⟨madeOf _ (by decide) (by rintro _ ⟨⟩) (by decide),
      madeOf _ (by decide) (by rintro _ ⟨⟩) (by decide),
      madeOf _ (by decide) (by rintro _ ⟨⟩) (by decide),
      madeOf _ (by decide) ?body (by decide), List.forall_mem_nil _⟩
    case body =>
      rintro _ ⟨⟩
      exact ⟨["return 12;"], rfl, by decide⟩
  obtain ⟨elements, units, classes⟩ := indentation_is_a_shift context
  obtain ⟨text, outcome, atOutermost, atLevel⟩ :=
    elements (.classType engine) made .declaration .tabbed
  have whole := (classes engine ⟨.tabbed, 0⟩ valid made).2
  have written : (engine.writeDeclaration context).runOn ⟨.tabbed, 0, ""⟩ =
      (⟨.tabbed, 0, declared⟩, .ok ()) := by
    refine whole.trans (Prod.ext ?_ rfl)
    decide +kernel
  have same := atOutermost.symm.trans written
  cases same
  refine ⟨made, valid, atLevel 2 "// Parts\n", elements (.classType engine) made .definition,
    units ⟨[.classType engine]⟩ ?_ .source, written⟩
  rw [TranslationUnit.elements, List.flatMap_singleton]
  exact made

end CppModel
