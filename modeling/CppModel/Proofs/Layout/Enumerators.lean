import CppModel.Proofs.Layout.Elements
import CppModel.Proofs.Procedure.Units
import Mathlib.Data.List.Nodup
import Mathlib.Data.List.Range

/-!
# Enumerators

Between its braces an enumeration has one enumerator for each item, numbered from zero in the
order in which the items were added, and the counter behind them.  A comma stands behind each
of them but the last.

All names begin with the mark, so the names of the items are as distinct as the items.  The
counter is named after the enumeration, and nothing keeps an item from having this name too:
then, and only then, two enumerators of distinct items have one name.
-/

namespace CppModel

open Procedure Process

namespace Enumeration

/-! ## Adding items -/

/-- A call that adds items. -/
inductive ItemCall
  | one (item : String)
  | many (items : List String)

namespace ItemCall

/-- What a call makes of an enumeration. -/
def perform (enumeration : Enumeration) : ItemCall → Enumeration
  | one item => enumeration.addItem item
  | many items => enumeration.addItems items

/-- The items that the call adds. -/
def items : ItemCall → List String
  | one item => [item]
  | many items => items

/-- Calls put their items behind those that are there, and leave everything else alone. -/
theorem foldl_perform (enumeration : Enumeration) (calls : List ItemCall) :
    calls.foldl perform enumeration =
      { enumeration with items := enumeration.items ++ calls.flatMap items } := by
  induction calls generalizing enumeration with
  | nil => simp
  | cons call rest inductionHypothesis =>
      rw [List.foldl_cons, inductionHypothesis, List.flatMap_cons]
      cases call <;> simp [perform, items, addItem, addItems]

end ItemCall

/-! ## Names and values -/

/-- A name with its value. -/
structure Enumerator where
  name : String
  value : Nat
  deriving DecidableEq, Repr

/-- The enumerator as it is written, without a comma. -/
def Enumerator.text (enumerator : Enumerator) : String :=
  enumerator.name ++ " = " ++ toString enumerator.value

/-- The enumerators of an enumeration: one for each item, and the counter. -/
def enumerators (enumeration : Enumeration) : List Enumerator :=
  (enumeration.items.zipIdx.map fun numbered => ⟨enumeration.mark ++ numbered.1, numbered.2⟩) ++
    [⟨enumeration.mark ++ (enumeration.name ++ "Count"), enumeration.items.length⟩]

/-- Texts with a comma behind each of them but the last. -/
def separated : List String → List String
  | [] => []
  | [last] => [last]
  | first :: second :: rest => (first ++ ",") :: separated (second :: rest)

theorem separated_concat (texts : List String) (last : String) :
    separated (texts ++ [last]) = texts.map (· ++ ",") ++ [last] := by
  induction texts with
  | nil => rfl
  | cons first rest inductionHypothesis =>
      cases rest with
      | nil => rfl
      | cons second others =>
          rw [List.cons_append, List.cons_append, separated]
          exact congrArg ((first ++ ",") :: ·) inductionHypothesis

theorem itemLines_eq (mark : String) (value : Nat) (items : List String) :
    itemLines mark value items =
      (items.zipIdx value).map fun numbered =>
        (Enumerator.mk (mark ++ numbered.1) numbered.2).text ++ "," := by
  induction items generalizing value with
  | nil => rfl
  | cons item rest inductionHypothesis =>
      rw [itemLines, inductionHypothesis, List.zipIdx_cons, List.map_cons, Enumerator.text]

/-- The lines between the braces are the enumerators with their commas. -/
theorem bodyLines_eq (enumeration : Enumeration) :
    enumeration.bodyLines = separated (enumeration.enumerators.map (·.text)) := by
  have counter : enumeration.counterLine =
      (Enumerator.mk (enumeration.mark ++ (enumeration.name ++ "Count"))
        enumeration.items.length).text := by
    have count : "Count = " = "Count" ++ " = " := rfl
    simp only [counterLine, Enumerator.text, count, String.append_assoc]
  rw [bodyLines, enumerators, itemLines_eq, counter, List.map_append, List.map_singleton,
    separated_concat, List.map_map, List.map_map]
  rfl

theorem map_value_enumerators (enumeration : Enumeration) :
    enumeration.enumerators.map (·.value) = List.range (enumeration.items.length + 1) := by
  have numbers : (enumeration.items.zipIdx.map Prod.snd) = List.range enumeration.items.length := by
    rw [List.zipIdx_map_snd, List.range_eq_range']
  rw [enumerators, List.map_append, List.map_map, List.range_succ, ← numbers]
  rfl

theorem map_name_enumerators (enumeration : Enumeration) :
    enumeration.enumerators.map (·.name) =
      (enumeration.items ++ [enumeration.name ++ "Count"]).map (enumeration.mark ++ ·) := by
  have names : (enumeration.items.zipIdx.map fun numbered => enumeration.mark ++ numbered.1) =
      enumeration.items.map (enumeration.mark ++ ·) := by
    conv_rhs => rw [← List.zipIdx_map_fst 0 enumeration.items, List.map_map]
    rfl
  rw [enumerators, List.map_append, List.map_map, List.map_append, ← names]
  rfl

/-- The mark keeps names apart that are apart without it. -/
theorem mark_injective (mark : String) : Function.Injective (mark ++ ·) :=
  fun _ _ => (String.append_right_inj mark).mp

/-- The names are distinct if the items are, and none of them is named like the counter. -/
theorem nodup_map_name_iff (enumeration : Enumeration) :
    (enumeration.enumerators.map (·.name)).Nodup ↔
      enumeration.items.Nodup ∧ enumeration.name ++ "Count" ∉ enumeration.items := by
  rw [map_name_enumerators, List.nodup_map_iff (mark_injective _), List.nodup_append_comm,
    List.singleton_append, List.nodup_cons, and_comm]

/-- The block of an enumeration in a place. -/
theorem runOn_write (context : Context) (enumeration : Enumeration) (sink : Sink) (form : Form)
    (isBlock : form ≠ .definition) :
    ((Element.enumeration enumeration).write context form).runOn sink =
      (sink.raw (sink.place.documentation enumeration.documentation ++
        sink.place.block enumeration.header ";"
          (String.join ((separated (enumeration.enumerators.map (·.text))).map
            sink.place.inner.line))), .ok ()) := by
  have written : enumeration.writeOwn.runOn sink =
      (sink.raw (enumeration.layout sink.place), .ok ()) := by
    rcases enumeration.prints_declaration sink.place with ⟨script, rendered, prints⟩
    rw [enumeration.carriesOut_writeOwn sink]
    have isScript : enumeration.render = .ok script := rendered
    rw [isScript, Sink.write, prints sink rfl]
  rw [layout, bodyLines_eq] at written
  cases form with
  | declaration => exact written
  | definition => exact absurd rfl isBlock
  | own => exact written

/-- An enumeration has one enumerator for each item, and its counter.

Calls put their items behind those that are there.  The block of the enumeration has one
enumerator for each item in this order, and the counter behind, with the values from zero up to
the number of the items.  The names are the items behind the mark, and the name of the counter;
they are pairwise distinct exactly if the items are and none of them is named like the
counter. -/
theorem enumerators_are_numbered (start : Enumeration) (calls : List ItemCall) :
    let enumeration := calls.foldl ItemCall.perform start
    enumeration = { start with items := start.items ++ calls.flatMap ItemCall.items } ∧
      (∀ (context : Context) (sink : Sink) (form : Form), form ≠ .definition →
        ((Element.enumeration enumeration).write context form).runOn sink =
          (sink.raw (sink.place.documentation enumeration.documentation ++
            sink.place.block enumeration.header ";"
              (String.join ((separated (enumeration.enumerators.map (·.text))).map
                sink.place.inner.line))), .ok ())) ∧
        enumeration.enumerators.map (·.value) = List.range (enumeration.items.length + 1) ∧
        enumeration.enumerators.map (·.name) =
          (enumeration.items ++ [enumeration.name ++ "Count"]).map (enumeration.mark ++ ·) ∧
        ((enumeration.enumerators.map (·.name)).Nodup ↔
          enumeration.items.Nodup ∧ enumeration.name ++ "Count" ∉ enumeration.items) := by
  intro enumeration
  refine ⟨ItemCall.foldl_perform start calls, ?_, enumeration.map_value_enumerators,
    enumeration.map_name_enumerators, enumeration.nodup_map_name_iff⟩
  intro context sink form isBlock
  exact runOn_write context enumeration sink form isBlock

/-- An item can have the name of the counter. -/
theorem counter_repeats_item :
    ¬ ∀ enumeration : Enumeration, enumeration.items.Nodup →
      (enumeration.enumerators.map (·.name)).Nodup := by
  intro distinct
  have names := distinct { name := "Color", items := ["ColorCount"] } (List.nodup_singleton _)
  revert names
  decide

end Enumeration

end CppModel
