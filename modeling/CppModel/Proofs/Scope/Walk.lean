import CppModel.Proofs.Scope.Forest
import Mathlib.Data.List.Nodup
import Mathlib.Data.List.Perm.Subperm

/-!
# Walks

A walk starts at a link and goes from each living scope to the one it is nested in, until
a link points to no living scope.  It is a relation between a link and the scopes that are
met, so it says nothing about a link from which there is no end.

A forest is acyclic if every link has a walk.  This is all that is needed: a walk is
determined by its link, so no scope can come twice on it, and it is no longer than the
number of scopes.  What a forest computes with that number as its limit is the walk.

The invariant speaks about living scopes only.  Behind a dropped scope the links may run
in a circle, which nobody can follow.
-/

namespace CppModel.Scope.Forest

/-- The scopes that are met on the way out from a link, innermost first. -/
inductive Walk (forest : Forest) : Link → List (Id × Node) → Prop
  | stop {link : Link} (dead : forest.target? link = none) : Walk forest link []
  | step {link : Link} {scope : Id} {node : Node} {outer : List (Id × Node)}
      (alive : forest.target? link = some (scope, node))
      (rest : Walk forest node.parent outer) : Walk forest link ((scope, node) :: outer)

/-- Every link leads out of the forest. -/
def Acyclic (forest : Forest) : Prop :=
  ∀ link, ∃ path, forest.Walk link path

namespace Walk

variable {forest : Forest} {link : Link} {path : List (Id × Node)}

/-- A link determines its walk. -/
theorem unique {other : List (Id × Node)} (first : forest.Walk link path)
    (second : forest.Walk link other) : path = other := by
  induction first generalizing other with
  | stop dead =>
      cases second with
      | stop _ => rfl
      | step alive _ =>
          rw [dead] at alive
          cases alive
  | step alive rest inductionHypothesis =>
      cases second with
      | stop dead =>
          rw [alive] at dead
          cases dead
      | step otherAlive otherRest =>
          rw [alive] at otherAlive
          cases otherAlive
          rw [inductionHypothesis otherRest]

/-- The part of a walk behind a scope is the walk from that scope. -/
theorem split_of_mem {scope : Id} {node : Node} (walk : forest.Walk link path)
    (met : (scope, node) ∈ path) :
    ∃ below above, path = below ++ (scope, node) :: above ∧
      forest.Walk (some scope) ((scope, node) :: above) := by
  induction walk with
  | stop dead => cases met
  | @step link first found outer alive rest inductionHypothesis =>
      rcases List.mem_cons.mp met with here | further
      · cases here
        rcases target?_eq_some_iff.mp alive with ⟨rfl, _⟩
        exact ⟨[], outer, rfl, .step alive rest⟩
      · rcases inductionHypothesis further with ⟨below, above, rfl, behind⟩
        exact ⟨(first, found) :: below, above, rfl, behind⟩

/-- No scope comes twice on a walk: behind its second place the walk would be as long as
behind its first one. -/
theorem nodup (walk : forest.Walk link path) : (path.map Prod.fst).Nodup := by
  induction walk with
  | stop dead => exact List.nodup_nil
  | @step link scope node outer alive rest inductionHypothesis =>
      rw [List.map_cons, List.nodup_cons]
      refine ⟨fun again => ?_, inductionHypothesis⟩
      rcases List.mem_map.mp again with ⟨⟨_, found⟩, met, rfl⟩
      rcases rest.split_of_mem met with ⟨below, above, split, behind⟩
      rcases target?_eq_some_iff.mp alive with ⟨rfl, _⟩
      have whole := behind.unique (.step alive rest)
      have lengths := congrArg List.length whole
      rw [split] at lengths
      simp only [List.length_cons, List.length_append] at lengths
      omega

theorem node?_of_mem {scope : Id} {node : Node} (walk : forest.Walk link path)
    (met : (scope, node) ∈ path) : forest.node? scope = some node := by
  rcases walk.split_of_mem met with ⟨_, _, _, behind⟩
  cases behind with
  | step alive _ => exact (target?_eq_some_iff.mp alive).2

/-- A walk meets no more scopes than there are. -/
theorem length_le (walk : forest.Walk link path) : path.length ≤ forest.nodes.size := by
  have distinct : (path.map fun met => met.1.index).Nodup := by
    have indices : path.map (fun met => met.1.index) = (path.map Prod.fst).map Id.index := by
      rw [List.map_map]
      rfl
    rw [indices]
    refine walk.nodup.map ?_
    rintro ⟨first⟩ ⟨second⟩ same
    exact congrArg Id.mk same
  have bounded : path.map (fun met => met.1.index) ⊆ List.range forest.nodes.size := by
    intro index listed
    rcases List.mem_map.mp listed with ⟨⟨scope, node⟩, met, rfl⟩
    exact List.mem_range.mpr (index_lt_of_node? (walk.node?_of_mem met))
  have count := (distinct.subperm bounded).length_le
  rwa [List.length_map, List.length_range] at count

/-- Climbing with a limit gives the first part of the walk. -/
theorem climb_eq_take (walk : forest.Walk link path) (limit : Nat) :
    forest.climb limit link = path.take limit := by
  induction walk generalizing limit with
  | stop dead =>
      cases limit with
      | zero => rfl
      | succ limit => rw [climb_succ, dead, List.take_nil]
  | step alive rest inductionHypothesis =>
      cases limit with
      | zero => rfl
      | succ limit => simp only [climb_succ, alive, List.take_succ_cons, inductionHypothesis]

/-- The number of scopes is limit enough for any walk. -/
theorem ancestors_eq (walk : forest.Walk link path) : forest.ancestors link = path := by
  rw [ancestors, walk.climb_eq_take, List.take_of_length_le walk.length_le]

end Walk

namespace Acyclic

variable {forest : Forest}

theorem walk (acyclic : forest.Acyclic) (link : Link) :
    forest.Walk link (forest.ancestors link) := by
  rcases acyclic link with ⟨path, walk⟩
  rw [walk.ancestors_eq]
  exact walk

/-- If each scope that is alive after a change either has the link it had, or has one from
which there is a walk, then there is a walk from everywhere. -/
theorem of_parents {before after : Forest} (acyclic : before.Acyclic)
    (parents : ∀ scope node, after.node? scope = some node →
      (∃ old, before.node? scope = some old ∧ old.parent = node.parent) ∨
        ∃ path, after.Walk node.parent path) :
    after.Acyclic := by
  intro link
  rcases acyclic link with ⟨path, walk⟩
  -- The induction is on the old walk; the new one may leave it for good at any scope.
  induction walk with
  | stop dead =>
      rename_i link
      cases target : after.target? link with
      | none => exact ⟨[], .stop target⟩
      | some found =>
          rcases target?_eq_some_iff.mp target with ⟨rfl, alive⟩
          rcases parents found.1 found.2 alive with ⟨old, wasAlive, _⟩ | ⟨outer, rest⟩
          · rw [target?_some_eq_none_iff.mp dead] at wasAlive
            cases wasAlive
          · exact ⟨found :: outer, .step target rest⟩
  | @step link scope old outer wasAlive oldRest inductionHypothesis =>
      cases target : after.target? link with
      | none => exact ⟨[], .stop target⟩
      | some found =>
          rcases target?_eq_some_iff.mp wasAlive with ⟨rfl, wasNode⟩
          rcases target?_eq_some_iff.mp target with ⟨same, alive⟩
          cases same
          rcases parents found.1 found.2 alive with ⟨known, isKnown, sameParent⟩ | ⟨path, rest⟩
          · rw [wasNode] at isKnown
            cases isKnown
            rcases inductionHypothesis with ⟨path, rest⟩
            rw [sameParent] at rest
            exact ⟨found :: path, .step target rest⟩
          · exact ⟨found :: path, .step target rest⟩

end Acyclic

/-! ## Operations keep a forest acyclic -/

theorem acyclic_empty : empty.Acyclic := by
  intro link
  refine ⟨[], .stop ?_⟩
  cases link with
  | none => rfl
  | some scope => exact target?_some_eq_none_iff.mpr (by simp [empty, node?])

/-- A walk that does not meet the changed scope is as it was. -/
theorem Walk.frame {before after : Forest} {scope : Id} {link : Link}
    {path : List (Id × Node)} (walk : before.Walk link path)
    (others : ∀ asked, asked ≠ scope → after.node? asked = before.node? asked)
    (dead : before.node? scope = none → after.node? scope = none)
    (unmet : scope ∉ path.map Prod.fst) : after.Walk link path := by
  induction walk with
  | @stop link stopped =>
      apply Walk.stop
      cases link with
      | none => rfl
      | some asked =>
          rw [target?_some_eq_none_iff] at stopped ⊢
          by_cases same : asked = scope
          · rw [same] at stopped ⊢
            exact dead stopped
          · rw [others asked same]
            exact stopped
  | @step link first node outer alive rest inductionHypothesis =>
      rw [List.map_cons, List.mem_cons, not_or] at unmet
      rcases target?_eq_some_iff.mp alive with ⟨rfl, isNode⟩
      apply Walk.step
      · rw [target?_eq_some_iff, others first (Ne.symm unmet.1)]
        exact ⟨rfl, isNode⟩
      · exact inductionHypothesis unmet.2

theorem isAbove_iff (forest : Forest) (scope : Id) (link : Link) :
    forest.isAbove scope link = true ↔ scope ∈ (forest.ancestors link).map Prod.fst := by
  simp [isAbove]

/-- A scope is above a link if it is met on the walk from there. -/
theorem Acyclic.isAbove_iff_walk {forest : Forest} (acyclic : forest.Acyclic) (scope : Id)
    (link : Link) :
    forest.isAbove scope link = true ↔
      ∃ path, forest.Walk link path ∧ scope ∈ path.map Prod.fst := by
  rw [isAbove_iff]
  constructor
  · intro met
    exact ⟨_, acyclic.walk link, met⟩
  · rintro ⟨path, walk, met⟩
    rwa [walk.ancestors_eq]

section Operations

variable {forest : Forest} (acyclic : forest.Acyclic)

include acyclic

theorem acyclic_create (name : String) : (forest.create name).2.Acyclic := by
  apply acyclic.of_parents
  intro scope node alive
  rw [node?_create] at alive
  split at alive
  · cases alive
    exact .inr ⟨[], .stop rfl⟩
  · exact .inl ⟨node, alive, rfl⟩

theorem acyclic_declareType (scope : Id) (type : String) :
    (forest.declareType scope type).Acyclic := by
  apply acyclic.of_parents
  intro asked node alive
  rw [declareType, node?_update] at alive
  split at alive
  · rcases Option.map_eq_some_iff.mp alive with ⟨old, wasAlive, rfl⟩
    exact .inl ⟨old, wasAlive, rfl⟩
  · exact .inl ⟨node, alive, rfl⟩

/-- The walk from the new link of a scope does not come by the scope, or nesting it there
would have been refused. -/
theorem walk_attach {scope : Id} {link : Link} (accepted : forest.isAbove scope link = false) :
    (forest.attach scope link).2.Walk link (forest.ancestors link) := by
  apply (acyclic.walk link).frame
  · intro asked other
    rw [node?_attach accepted, if_neg other]
  · intro dead
    rw [node?_attach accepted, dead]
    simp
  · rw [← isAbove_iff, accepted]
    exact Bool.false_ne_true

theorem acyclic_attach (scope : Id) (link : Link) : (forest.attach scope link).2.Acyclic := by
  cases accepted : forest.isAbove scope link with
  | true =>
      rw [attach_of_isAbove accepted]
      exact acyclic
  | false =>
      apply acyclic.of_parents
      intro asked node alive
      rw [node?_attach accepted] at alive
      split at alive
      · rcases Option.map_eq_some_iff.mp alive with ⟨old, _, rfl⟩
        exact .inr ⟨_, walk_attach acyclic accepted⟩
      · exact .inl ⟨node, alive, rfl⟩

theorem acyclic_drop (dropped : List Id) : (forest.drop dropped).Acyclic := by
  apply acyclic.of_parents
  intro scope node alive
  rw [node?_drop] at alive
  split at alive
  · cases alive
  · exact .inl ⟨node, alive, rfl⟩

end Operations

end CppModel.Scope.Forest
