import Mathlib.Data.List.Basic

/-!
# Interleaving

Calls are of different kinds, and only calls of one kind wait for each other.  Two
lists of calls interleave the same calls if each kind has the same calls in the same order
in both; nothing is said about the order of calls of different kinds.

If calls of different kinds commute, then such lists lead to the same end.  It is enough
that they commute up to a relation that the calls respect.
-/

namespace CppModel

variable {Call Kind State : Type}

/-- For each kind, the lists have the same calls of this kind in the same order. -/
def Interleaves [DecidableEq Kind] (kind : Call → Kind) (first second : List Call) : Prop :=
  ∀ asked, first.filter (kind · = asked) = second.filter (kind · = asked)

/-- Calls of different kinds commute, up to an equivalence that every call respects. -/
structure CommuteUpTo (related : State → State → Prop) (kind : Call → Kind)
    (step : State → Call → State) : Prop where
  equivalence : Equivalence related
  respects : ∀ call state other, related state other →
    related (step state call) (step other call)
  commutes : ∀ call other state, kind call ≠ kind other →
    related (step (step state call) other) (step (step state other) call)

variable {kind : Call → Kind} {step : State → Call → State} {related : State → State → Prop}
  {first second rest before after : List Call} {call : Call}

theorem CommuteUpTo.eq (commutes : ∀ call other state, kind call ≠ kind other →
    step (step state call) other = step (step state other) call) :
    CommuteUpTo (· = ·) kind step where
  equivalence := eq_equivalence
  respects call _ _ same := congrArg (step · call) same
  commutes := commutes

namespace CommuteUpTo

variable (commuting : CommuteUpTo related kind step)

include commuting

theorem foldl_congr (calls : List Call) {state other : State} (alike : related state other) :
    related (calls.foldl step state) (calls.foldl step other) := by
  induction calls generalizing state other with
  | nil => exact alike
  | cons call rest inductionHypothesis =>
      exact inductionHypothesis (commuting.respects call _ _ alike)

/-- A call can be made ahead of calls of other kinds. -/
theorem foldl_ahead (apart : ∀ passed ∈ before, kind passed ≠ kind call) (state : State) :
    related ((before ++ call :: after).foldl step state)
      ((before ++ after).foldl step (step state call)) := by
  induction before generalizing state with
  | nil => exact commuting.equivalence.refl _
  | cons first others inductionHypothesis =>
      rcases List.forall_mem_cons.mp apart with ⟨firstApart, othersApart⟩
      apply commuting.equivalence.trans (inductionHypothesis othersApart (step state first))
      exact commuting.foldl_congr (others ++ after) (commuting.commutes first call state firstApart)

end CommuteUpTo

namespace Interleaves

variable [DecidableEq Kind]

theorem refl (calls : List Call) : Interleaves kind calls calls :=
  fun _ => rfl

/-- The call in front of one list is the first one of its kind in the other list. -/
theorem exists_split (same : Interleaves kind (call :: rest) second) :
    ∃ before after, second = before ++ call :: after ∧
      (∀ passed ∈ before, kind passed ≠ kind call) ∧ Interleaves kind rest (before ++ after) := by
  have ofKind := (same (kind call)).symm
  rw [List.filter_cons_of_pos (by simp), List.filter_eq_cons_iff] at ofKind
  rcases ofKind with ⟨before, after, rfl, passed, _, others⟩
  have apart : ∀ other ∈ before, kind other ≠ kind call := by simpa using passed
  refine ⟨before, after, rfl, apart, fun asked => ?_⟩
  by_cases isKind : kind call = asked
  · subst isKind
    have nothing : before.filter (kind · = kind call) = [] := by simpa using apart
    rw [List.filter_append, nothing, List.nil_append, others]
  · have ofAsked := same asked
    rw [List.filter_cons_of_neg (by simpa using isKind), List.filter_append,
      List.filter_cons_of_neg (by simpa using isKind), ← List.filter_append] at ofAsked
    exact ofAsked

/-- Lists that interleave the same calls lead to related ends. -/
theorem related_foldl (same : Interleaves kind first second)
    (commuting : CommuteUpTo related kind step) (state : State) :
    related (first.foldl step state) (second.foldl step state) := by
  induction first generalizing second state with
  | nil =>
      cases second with
      | nil => exact commuting.equivalence.refl _
      | cons call rest => simpa using same (kind call)
  | cons call rest inductionHypothesis =>
      rcases same.exists_split with ⟨before, after, rfl, apart, restSame⟩
      apply commuting.equivalence.trans (inductionHypothesis restSame (step state call))
      exact commuting.equivalence.symm (commuting.foldl_ahead apart state)

/-- Where calls of different kinds commute, the end is the same. -/
theorem foldl_eq (same : Interleaves kind first second)
    (commutes : ∀ call other state, kind call ≠ kind other →
      step (step state call) other = step (step state other) call) (state : State) :
    first.foldl step state = second.foldl step state :=
  same.related_foldl (.eq commutes) state

/-- What is read off the calls of one kind is the same for both lists. -/
theorem filterMap_eq {Content : Type} {read : Call → Option Content}
    (same : Interleaves kind first second) (asked : Kind)
    (ofKind : ∀ call, kind call ≠ asked → read call = none) :
    first.filterMap read = second.filterMap read := by
  have onlyAsked (calls : List Call) :
      calls.filterMap read = (calls.filter (kind · = asked)).filterMap read := by
    rw [List.filterMap_filter]
    apply List.filterMap_congr
    intro call _
    by_cases isAsked : kind call = asked
    · simp [isAsked]
    · simp [isAsked, ofKind call isAsked]
  rw [onlyAsked first, same asked, ← onlyAsked]

end Interleaves

end CppModel
