import CppModel.Proofs.Scope.Workspace

/-!
# No circles

Whatever has been made, nested, filled and dropped in a workspace, the way out from any
link has an end and comes to no scope twice.  What keeps it so is the refusal to nest a
scope below itself, and this is the only refusal there is: nesting fails exactly for the
links from which the scope itself is met, and otherwise nothing but the link of the
scope changes.
-/

namespace CppModel.Workspace

open Scope

/-- In a workspace after any run, every link has a walk that meets no scope twice, and it
is what the forest computes.  A scope can be nested under a link exactly if it is not on
the walk from there.  If it is, nothing changes; if it is not, no other scope changes and
of this one nothing but the parent. -/
theorem walk_ends_and_attach_decides {operations : List Operation} {workspace : Workspace}
    (ran : run operations {} = some workspace) :
    (∀ link, ∃ path, workspace.forest.Walk link path ∧ (path.map Prod.fst).Nodup ∧
      workspace.forest.ancestors link = path) ∧
      ∀ scope link answer after, workspace.forest.attach scope link = (answer, after) →
        (answer = false ↔
          ∃ path, workspace.forest.Walk link path ∧ scope ∈ path.map Prod.fst) ∧
          (answer = false → after = workspace.forest) ∧
          (answer = true →
            after.node? scope =
                (workspace.forest.node? scope).map (fun node => { node with parent := link }) ∧
              ∀ other, other ≠ scope → after.node? other = workspace.forest.node? other) := by
  have acyclic := acyclic_run ran
  constructor
  · intro link
    have walk := acyclic.walk link
    exact ⟨_, walk, walk.nodup, rfl⟩
  · intro scope link answer after attached
    have onWalk := acyclic.isAbove_iff_walk scope link
    rcases Forest.attach_cases attached with ⟨above, rfl, rfl⟩ | ⟨notAbove, rfl, rfl⟩
    · refine ⟨iff_of_true rfl (onWalk.mp above), fun _ => rfl, ?_⟩
      intro accepted
      cases accepted
    · rw [notAbove] at onWalk
      constructor
      · simpa using onWalk
      constructor
      · intro refused
        cases refused
      · intro _
        constructor
        · rw [Forest.node?_attach notAbove, if_pos rfl]
        · intro other different
          rw [Forest.node?_attach notAbove, if_neg different]

/-- The outer scope cannot be nested in the inner one. -/
theorem attach_outer_to_inner :
    ∃ workspace, run nestedScopes {} = some workspace ∧
      workspace.forest.attach ⟨0⟩ (some ⟨1⟩) = (false, workspace.forest) := by
  have ran : run nestedScopes {} = some _ := rfl
  refine ⟨_, ran, ?_⟩
  rcases (walk_ends_and_attach_decides ran).2 ⟨0⟩ (some ⟨1⟩) _ _ rfl with
    ⟨refused, unchanged, _⟩
  have met := refused.mpr ⟨_, .step rfl (.step rfl (.stop rfl)), by simp⟩
  exact Prod.ext met (unchanged met)

end CppModel.Workspace
