import CppModel.Proofs.Pieces.Units
import CppModel.Proofs.Procedure.Units

/-!
# The source is a list of entries

The source of a class is a flat list.  Each member that is defined outside of its class
makes one entry, the members of nested classes behind those of the class around them, and
a blank line stands between any two entries.  A unit lists the entries of its elements, one
element after another.

Joining is done twice, in every class and once more in the unit, and by different rules.
That the result is one list rests on two facts: every entry is a text that is not empty, so
that no chunk is left out, and a class without entries writes nothing, so that the unit
leaves it out.
-/

namespace CppModel

open Scope Procedure Process
open Rendering (bind_eq_ok_iff all_eq_ok_iff Gives gives_pure gives_error gives_bind)

/-! ## What a procedure writes on its own -/

namespace Rendering

/-- The text of a rendering in the place of a sink.  An error has none. -/
def textAt (sink : Sink) : Rendering → String
  | .ok script => script.textAt sink
  | .error _ => ""

section Items

variable {Item : Type} {items : List Item} {render : Item → Rendering} {scripts : List Script}

theorem exists_eq_ok_of_map_eq (succeeded : items.map render = scripts.map .ok) :
    ∀ item ∈ items, ∃ script, render item = .ok script := by
  intro item listed
  have inScripts : render item ∈ scripts.map .ok := succeeded ▸ List.mem_map_of_mem listed
  obtain ⟨script, _, same⟩ := List.mem_map.mp inScripts
  exact ⟨script, same.symm⟩

/-- Where all items of a list are rendered, their scripts have the texts of the items. -/
theorem map_textAt_eq {sink : Sink} {text : Item → String}
    (succeeded : items.map render = scripts.map .ok)
    (texts : ∀ item ∈ items, ∀ script, render item = .ok script →
      script.textAt sink = text item) :
    scripts.map (Script.textAt sink) = items.map text := by
  have ofScripts : scripts.map (Script.textAt sink) = (items.map render).map (textAt sink) := by
    rw [succeeded, List.map_map]
    rfl
  rw [ofScripts, List.map_map]
  refine List.map_congr_left fun item listed => ?_
  obtain ⟨script, rendered⟩ := exists_eq_ok_of_map_eq succeeded item listed
  rw [Function.comp_apply, rendered]
  exact texts item listed script rendered

end Items

end Rendering

namespace Procedure

/-- What the procedure writes on an empty sink of the same style at the same level. -/
def textAt (sink : Sink) (procedure : Procedure Unit) : String :=
  (procedure.runOn sink.fork).1.text

variable {procedure : Procedure Unit} {rendering : Rendering}

theorem CarriesOut.textAt_eq (carriesOut : CarriesOut procedure rendering) (sink : Sink) :
    procedure.textAt sink = rendering.textAt sink := by
  rw [textAt, carriesOut]
  cases rendering <;> rfl

theorem CarriesOut.runOn_eq_ok_iff (carriesOut : CarriesOut procedure rendering)
    (sink after : Sink) :
    procedure.runOn sink = (after, .ok ()) ↔
      ∃ script, rendering = .ok script ∧ (Script.run script sink).1 = after := by
  rw [carriesOut]
  cases rendering <;> simp [Sink.write]

end Procedure

/-! ## Entries -/

/-- Whether a function of a class is defined outside of the class.  A constructor always
is. -/
def MemberFunction.isDefinedOutside : MemberFunction → Bool
  | .method content => !content.modifiers.isPureVirtual && !content.modifiers.isConstexpr
  | .constructor _ => true

/-- The members that are defined outside of the class, in the order of the source, nested
classes apart. -/
def ClassParts.defined (parts : ClassParts) : List Element :=
  (parts.dataMembers.filter fun data => data.isStatic && !data.isConstexpr).map .data ++
    (parts.arrays.filter (·.isStatic)).map .array ++
    (parts.functions.filter (·.isDefinedOutside)).map .member

/-- The members that are defined outside of their classes: those of the class itself, and
then those of each nested class. -/
def Class.defined (owner : Class) : List Element :=
  owner.tree.flatMap (·.parts.defined)

namespace Element

/-- The elements that have an entry in the source.  A class has those of its members, and a
`constexpr` function has none. -/
def defined : Element → List Element
  | .function content => if content.isConstexpr then [] else [.function content]
  | .classType owner => owner.defined
  | _ => []

/-- What writes the entry of an element: a function in the form that is its own, and every
other element as a definition. -/
def writeEntry (context : Context) : Element → Procedure Unit
  | .function content => content.writeOwn
  | element => element.write context .definition

/-- What stands at the end of an entry, in front of the end of the line. -/
def closing : Element → String
  | .data _ => ";"
  | .array _ => ";"
  | _ => "\x7d"

/-- The element is written without an error, and the text is not empty and ends a line. -/
def IsEntry (context : Context) (sink : Sink) (element : Element) : Prop :=
  ((element.writeEntry context).runOn sink.fork).2 = .ok () ∧
    ∃ front, (element.writeEntry context).textAt sink = front ++ element.closing ++ "\n"

end Element

/-- The elements of a unit that have an entry in the source. -/
def TranslationUnit.defined (unit : TranslationUnit) : List Element :=
  unit.items.flatMap (·.defined)

namespace ClassParts

/-- An entry of a class is a variable, an array or a function that needs a definition. -/
@[elab_as_elim]
theorem mem_defined_cases {parts : ClassParts}
    {motive : (element : Element) → element ∈ parts.defined → Prop}
    (data : ∀ content ∈ parts.dataMembers, content.needsDefinition = true →
      ∀ listed, motive (.data content) listed)
    (array : ∀ content ∈ parts.arrays, content.needsDefinition = true →
      ∀ listed, motive (.array content) listed)
    (function : ∀ content ∈ parts.functions, content.needsDefinition = true →
      ∀ listed, motive (.member content) listed)
    (element : Element) (listed : element ∈ parts.defined) : motive element listed := by
  have kinds := listed
  simp only [defined, List.mem_append, List.mem_map, List.mem_filter] at kinds
  rcases kinds with (⟨content, ⟨isMember, needed⟩, rfl⟩ | ⟨content, ⟨isMember, needed⟩, rfl⟩) |
    ⟨content, ⟨isMember, needed⟩, rfl⟩
  · exact data content isMember needed listed
  · exact array content isMember needed listed
  · exact function content isMember (by cases content <;> exact needed) listed

theorem definitions_eq_map_defined (context : Context) (parts : ClassParts) :
    parts.definitions context = parts.defined.map (·.definition context) := by
  rw [definitions, defined, List.map_append, List.map_append, List.map_map, List.map_map,
    List.map_map]
  rfl

end ClassParts

namespace Class

theorem defined_eq (owner : Class) :
    owner.defined = owner.parts.defined ++ owner.nested.flatMap defined := by
  rw [defined, tree_eq, List.flatMap_cons, List.flatMap_assoc]
  rfl

/-- The definitions of a class are those of its entries. -/
theorem definitions_eq_map_defined (context : Context) (owner : Class) :
    owner.definitions context = owner.defined.map (·.definition context) := by
  induction owner using induction_on with
  | step parts nested inductionHypothesis =>
      rw [definitions_eq, defined_eq, List.map_append, List.map_flatMap,
        List.flatMap_congr inductionHypothesis, parts.definitions_eq_map_defined]

end Class

/-! ## How entries end -/

namespace Script

/-- On every sink, the script ends a line with the given text. -/
def EndsLine (closing : String) (script : Script) : Prop :=
  ∀ sink, ∃ front, script.textAt sink = front ++ closing ++ "\n"

theorem textAt_append_singleton {first : Script} (total : first.Total) (last : Step)
    (sink : Sink) :
    (first ++ [last]).textAt sink = (Step.run last (Script.run first sink.fork).1).1.text := by
  rw [textAt, total.run_append, run_singleton]

theorem endsLine_documented_line (documentation : Option String) (text closing : String) :
    EndsLine closing (ofDoc documentation ++ [.line (text ++ closing)]) := by
  intro sink
  rw [textAt_append_singleton (total_ofDoc documentation), Step.run, Sink.text_line,
    ← String.append_assoc]
  exact ⟨_, rfl⟩

theorem endsLine_documented_function (documentation : Option String) (header : String)
    (content : Script) :
    EndsLine "\x7d" (ofDoc documentation ++ [.block header "" content]) := by
  intro sink
  rw [textAt_append_singleton (total_ofDoc documentation), Step.run, Sink.closeBlock,
    Sink.text_line, String.append_empty]
  exact ⟨_, rfl⟩

end Script

open Script (EndsLine endsLine_documented_line endsLine_documented_function)

theorem FreeFunction.endsLine_render (function : FreeFunction) :
    Gives (EndsLine "\x7d") function.render := by
  apply gives_bind
  intro _ _
  cases function.body with
  | none => exact gives_error _
  | some content => exact gives_pure (endsLine_documented_function _ _ content)

theorem Method.endsLine_definition (context : Context) (method : Method) :
    Gives (EndsLine "\x7d") (method.definition context) := by
  apply gives_bind
  intro _ _
  cases method.modifiers.isPureVirtual with
  | true => exact gives_error _
  | false => exact gives_bind fun content _ => gives_pure (endsLine_documented_function _ _ content)

theorem Constructor.endsLine_definition (context : Context) (constructor : Constructor) :
    Gives (EndsLine "\x7d") (constructor.definition context) :=
  gives_bind fun _ _ => gives_bind fun content _ =>
    gives_pure (endsLine_documented_function _ _ content)

theorem Variable.exists_lineOf (head : String) (value : Option String) :
    ∃ front, lineOf head value = front ++ ";" := by
  cases value <;> exact ⟨_, rfl⟩

theorem Variable.endsLine_definition {context : Context} {data : Variable}
    (attached : context.scopes.isAttached data.link = true) (needed : data.needsDefinition = true) :
    Gives (EndsLine ";") (data.definition context) := by
  rw [definition, attached, needed]
  refine gives_bind fun _ _ => gives_pure ?_
  obtain ⟨front, line⟩ := exists_lineOf (data.outerHead context) data.value
  rw [written, line]
  exact endsLine_documented_line _ front ";"

theorem ArrayVariable.exists_initializedLine (array : ArrayVariable) (head name : String) :
    ∃ front, array.initializedLine head name = front ++ ";" := by
  by_cases empty : array.items.isEmpty
  · exact ⟨_, if_pos empty⟩
  · have ending : "\x7d;" = "\x7d" ++ ";" := rfl
    rw [initializedLine, if_neg empty, ending, ← String.append_assoc]
    exact ⟨_, rfl⟩

theorem ArrayVariable.endsLine_definition {context : Context} {array : ArrayVariable}
    (attached : context.scopes.isAttached array.link = true)
    (needed : array.needsDefinition = true) :
    Gives (EndsLine ";") (array.definition context) := by
  rw [definition, attached, needed]
  refine gives_bind fun _ _ => gives_pure ?_
  obtain ⟨front, line⟩ := array.exists_initializedLine array.outerHead (array.fullName context)
  rw [initialized, line]
  exact endsLine_documented_line _ front ";"

end CppModel
