import Mathlib.Data.List.Forall2

/-!
# Lists that are related item by item

Two runs over lists do the same if the lists are related item by item and the relation
respects what is read of an item.
-/

namespace CppModel

variable {First Second Content : Type} {related : First → Second → Prop} {items : List First}
  {others : List Second}

theorem forall₂_dropWhile (alike : List.Forall₂ related items others) {passed : First → Bool}
    {otherPassed : Second → Bool}
    (agree : ∀ item other, related item other → passed item = otherPassed other) :
    List.Forall₂ related (items.dropWhile passed) (others.dropWhile otherPassed) := by
  induction alike with
  | nil => exact .nil
  | @cons item other items others isRelated rest inductionHypothesis =>
      cases isPassed : passed item with
      | true =>
          rw [List.dropWhile_cons_of_pos isPassed,
            List.dropWhile_cons_of_pos ((agree item other isRelated).symm.trans isPassed)]
          exact inductionHypothesis
      | false =>
          have isNotPassed := (agree item other isRelated).symm.trans isPassed
          rw [List.dropWhile_cons_of_neg (Bool.not_eq_true _ ▸ isPassed),
            List.dropWhile_cons_of_neg (Bool.not_eq_true _ ▸ isNotPassed)]
          exact .cons isRelated rest

theorem forall₂_filter (alike : List.Forall₂ related items others) {needed : First → Bool}
    {otherNeeded : Second → Bool}
    (agree : ∀ item other, related item other → needed item = otherNeeded other) :
    List.Forall₂ related (items.filter needed) (others.filter otherNeeded) :=
  List.rel_filter (p := needed) (q := otherNeeded) (R := related)
    (fun item other isRelated => iff_of_eq (congrArg (· = true) (agree item other isRelated))) alike

theorem map_eq_of_forall₂ (alike : List.Forall₂ related items others) {content : First → Content}
    {otherContent : Second → Content}
    (agree : ∀ item other, related item other → content item = otherContent other) :
    items.map content = others.map otherContent := by
  rw [← List.forall₂_eq_eq_eq, List.forall₂_map_left_iff, List.forall₂_map_right_iff]
  exact alike.imp agree

theorem map_filter_eq_of_forall₂ (alike : List.Forall₂ related items others)
    {needed : First → Bool} {otherNeeded : Second → Bool} {content : First → Content}
    {otherContent : Second → Content}
    (sameNeed : ∀ item other, related item other → needed item = otherNeeded other)
    (agree : ∀ item other, related item other → content item = otherContent other) :
    (items.filter needed).map content = (others.filter otherNeeded).map otherContent :=
  map_eq_of_forall₂ (forall₂_filter alike sameNeed) agree

/-- The items in front of an item, the item itself and those behind it are related to what is at
the same places of the other list. -/
theorem split_of_forall₂ {before after : List Second} {other : Second}
    (alike : List.Forall₂ related items (before ++ other :: after)) :
    ∃ front item back, items = front ++ item :: back ∧ List.Forall₂ related front before ∧
      related item other ∧ List.Forall₂ related back after := by
  have front := List.forall₂_take_append _ _ _ alike
  have behind := List.forall₂_drop_append _ _ _ alike
  rcases List.forall₂_cons_right_iff.mp behind with ⟨item, back, itemAlike, backAlike, dropped⟩
  refine ⟨items.take before.length, item, back, ?_, front, itemAlike, backAlike⟩
  rw [← dropped, List.take_append_drop]

theorem isEmpty_eq_of_forall₂ (alike : List.Forall₂ related items others) :
    items.isEmpty = others.isEmpty := by
  cases alike <;> rfl

end CppModel
