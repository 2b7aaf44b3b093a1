import CppModel.Proofs.Scope.Workspace
import CppModel.TranslationUnit
import Mathlib.Data.List.TakeWhile

/-!
# Names after moving and dropping

Every name is read off a walk.  What an operation does to names is therefore told by what
it does to walks.  Nesting a scope cuts the walks that meet it behind the scope, and
continues them with the walk from its new link; dropping scopes cuts each walk in front
of the first of them that it meets.  All other walks stay as they are, however many scopes
they share with those that change.
-/

namespace CppModel

open Scope

namespace Scope.Forest

/-- The names on a walk, outermost first. -/
def names (path : List (Id × Node)) : List String :=
  (path.map (·.2.name)).reverse

theorem names_append (below above : List (Id × Node)) :
    names (below ++ above) = names above ++ names below := by
  simp [names]

theorem names_cons (scope : Id) (node : Node) (outer : List (Id × Node)) :
    names ((scope, node) :: outer) = names outer ++ [node.name] := by
  simp [names]

variable {forest : Forest} {link : Link} {path : List (Id × Node)} {scope : Id} {node : Node}

namespace Walk

theorem path?_eq (walk : forest.Walk link path) :
    forest.path? link = if path = [] then none else some (names path) := by
  rw [path?, walk.ancestors_eq]
  cases walk with
  | stop dead =>
      rw [isAttached, dead]
      rfl
  | step alive rest =>
      rw [isAttached, alive]
      rfl

theorem getD_path? (walk : forest.Walk link path) : (forest.path? link).getD [] = names path := by
  rw [walk.path?_eq]
  by_cases empty : path = []
  · rw [if_pos empty, empty]
    rfl
  · rw [if_neg empty]
    rfl

/-- A scope is named by the walk that begins with it. -/
theorem scopePath_eq (walk : forest.Walk (some scope) path)
    (alive : forest.node? scope = some node) : forest.scopePath scope node.name = names path := by
  cases walk with
  | stop dead =>
      rw [target?_some_eq_none_iff, alive] at dead
      cases dead
  | step target rest =>
      rcases target?_eq_some_iff.mp target with ⟨same, isNode⟩
      cases same
      rw [alive] at isNode
      cases isNode
      rw [scopePath, parent, alive, Option.bind_some, rest.getD_path?, names_cons]

theorem qualifiedName_eq (walk : forest.Walk link path) (name separator : String) :
    forest.qualifiedName link name separator = separator.intercalate (names path ++ [name]) := by
  rw [qualifiedName, qualify?, walk.path?_eq]
  by_cases empty : path = []
  · rw [if_pos empty, empty]
    simp [names]
  · rw [if_neg empty]
    rfl

/-! ## Nesting -/

/-- Behind a scope that has been nested under a link, a walk goes on from that link. -/
theorem attach_of_mem {target : Link} (acyclic : forest.Acyclic)
    (accepted : forest.isAbove scope target = false) {below above : List (Id × Node)}
    (walk : forest.Walk link (below ++ (scope, node) :: above)) :
    (forest.attach scope target).2.Walk link
      (below ++ (scope, { node with parent := target }) :: forest.ancestors target) := by
  induction below generalizing link with
  | nil =>
      cases walk with
      | step alive rest =>
          rcases target?_eq_some_iff.mp alive with ⟨rfl, isNode⟩
          apply Walk.step
          · rw [target?_eq_some_iff, node?_attach accepted, if_pos rfl, isNode]
            exact ⟨rfl, rfl⟩
          · exact walk_attach acyclic accepted
  | cons first rest inductionHypothesis =>
      have once := walk.nodup
      cases walk with
      | step alive outer =>
          rcases target?_eq_some_iff.mp alive with ⟨rfl, isNode⟩
          apply Walk.step _ (inductionHypothesis outer)
          rw [target?_eq_some_iff, node?_attach accepted, if_neg, isNode]
          · exact ⟨rfl, rfl⟩
          · -- The scope comes later on the walk, and only there.
            rintro rfl
            simp at once

theorem attach_of_not_mem {target : Link} (accepted : forest.isAbove scope target = false)
    (walk : forest.Walk link path) (unmet : scope ∉ path.map Prod.fst) :
    (forest.attach scope target).2.Walk link path := by
  apply walk.frame _ _ unmet
  · intro asked other
    rw [node?_attach accepted, if_neg other]
  · intro dead
    rw [node?_attach accepted, dead]
    simp

/-! ## Dropping -/

/-- A walk ends in front of the first scope on it that has been dropped. -/
theorem drop (dropped : List Id) (walk : forest.Walk link path) :
    (forest.drop dropped).Walk link (path.takeWhile fun met => met.1 ∉ dropped) := by
  induction walk with
  | @stop link dead =>
      apply Walk.stop
      cases link with
      | none => rfl
      | some scope =>
          rw [target?_some_eq_none_iff] at dead ⊢
          rw [node?_drop, dead, ite_self]
  | @step link scope node outer alive rest inductionHypothesis =>
      rcases target?_eq_some_iff.mp alive with ⟨rfl, isNode⟩
      by_cases isDropped : scope ∈ dropped
      · rw [List.takeWhile_cons_of_neg (by simpa using isDropped)]
        apply Walk.stop
        rw [target?_some_eq_none_iff, node?_drop, if_pos isDropped]
      · rw [List.takeWhile_cons_of_pos (by simpa using isDropped)]
        apply Walk.step _ inductionHypothesis
        rw [target?_eq_some_iff, node?_drop, if_neg isDropped]
        exact ⟨rfl, isNode⟩

theorem drop_of_mem {dropped : List Id} {below above : List (Id × Node)}
    (walk : forest.Walk link (below ++ (scope, node) :: above)) (isDropped : scope ∈ dropped)
    (kept : ∀ met ∈ below, met.1 ∉ dropped) : (forest.drop dropped).Walk link below := by
  have cut := walk.drop dropped
  rw [List.takeWhile_append_of_pos (by simpa using kept),
    List.takeWhile_cons_of_neg (by simpa using isDropped), List.append_nil] at cut
  exact cut

theorem drop_of_not_mem {dropped : List Id} (walk : forest.Walk link path)
    (kept : ∀ met ∈ path, met.1 ∉ dropped) : (forest.drop dropped).Walk link path := by
  have cut := walk.drop dropped
  rw [List.takeWhile_eq_self_iff.mpr (by simpa using kept)] at cut
  exact cut

end Walk

/-! ## Paths -/

section Paths

variable {target : Link} {after : Forest} {below above : List (Id × Node)}

/-- A link that meets a scope has a path, which the scope divides in two. -/
theorem Walk.path?_eq_append (walk : forest.Walk link (below ++ (scope, node) :: above)) :
    forest.path? link = some (names above ++ names (below ++ [(scope, node)])) := by
  rw [walk.path?_eq, if_neg (by simp)]
  simp [names]

/-- The path of a link behind a scope that has been nested elsewhere begins with the path
of the new link. -/
theorem Walk.path?_attach_of_mem (acyclic : forest.Acyclic)
    (walk : forest.Walk link (below ++ (scope, node) :: above))
    (attached : forest.attach scope target = (true, after)) :
    after.path? link =
      some ((forest.path? target).getD [] ++ names (below ++ [(scope, node)])) := by
  rcases attach_cases attached with ⟨_, refused, _⟩ | ⟨accepted, _, rfl⟩
  · cases refused
  · rw [(walk.attach_of_mem acyclic accepted).path?_eq_append,
      (acyclic.walk target).getD_path?, names_append, names_append]
    rfl

theorem Walk.path?_attach_of_not_mem (walk : forest.Walk link path)
    (attached : forest.attach scope target = (true, after))
    (unmet : scope ∉ path.map Prod.fst) : after.path? link = forest.path? link := by
  rcases attach_cases attached with ⟨_, refused, _⟩ | ⟨accepted, _, rfl⟩
  · cases refused
  · rw [(walk.attach_of_not_mem accepted unmet).path?_eq, walk.path?_eq]

theorem Walk.path?_drop_of_not_mem {dropped : List Id} (walk : forest.Walk link path)
    (kept : ∀ met ∈ path, met.1 ∉ dropped) :
    (forest.drop dropped).path? link = forest.path? link := by
  rw [(walk.drop_of_not_mem kept).path?_eq, walk.path?_eq]

/-- A living scope and a link to it have the same path. -/
theorem Walk.path?_of_alive (walk : forest.Walk (some scope) path)
    (alive : forest.node? scope = some node) : forest.path? (some scope) = some (names path) := by
  rw [walk.path?_eq, if_neg]
  rintro rfl
  cases walk with
  | stop dead =>
      rw [target?_some_eq_none_iff, alive] at dead
      cases dead

end Paths

/-! ## What the names come to -/

/-- The path of a link after a scope has been nested under a target.  If the walk from the
link meets the scope, the part of the path from this scope inwards is kept and continues the
path of the target, and otherwise the path is kept as a whole. -/
structure MovesPath (forest after : Forest) (scope : Id) (target link : Link)
    (path : List (Id × Node)) : Prop where
  walk : forest.Walk link path
  moved : ∀ below node above, path = below ++ (scope, node) :: above →
    forest.path? link = some (names above ++ names (below ++ [(scope, node)])) ∧
      after.path? link =
        some ((forest.path? target).getD [] ++ names (below ++ [(scope, node)]))
  kept : scope ∉ path.map Prod.fst → after.path? link = forest.path? link

/-- The path of a link after scopes have been dropped.  If the walk from the link meets one
of them, the part of the path inside of the first one is kept, and nothing if there is no such
part; otherwise the path is kept as a whole. -/
structure CutsPath (forest : Forest) (dropped : List Id) (link : Link)
    (path : List (Id × Node)) : Prop where
  walk : forest.Walk link path
  cut : ∀ below scope node above, path = below ++ (scope, node) :: above →
    scope ∈ dropped → (∀ met ∈ below, met.1 ∉ dropped) →
      forest.path? link = some (names ((scope, node) :: above) ++ names below) ∧
        (forest.drop dropped).path? link = if below = [] then none else some (names below)
  kept : (∀ met ∈ path, met.1 ∉ dropped) → (forest.drop dropped).path? link = forest.path? link

/-- The paths of scopes and the names of elements are what the walks through the forest say,
now and after a scope has been moved or scopes have been dropped. -/
structure NamesFollowWalks (forest : Forest) : Prop where
  scopes : ∀ scope node, forest.node? scope = some node →
    ∃ path, forest.Walk (some scope) path ∧
      forest.scopePath scope node.name = names path ∧
      forest.path? (some scope) = some (names path)
  moving : ∀ scope target after, forest.attach scope target = (true, after) →
    ∀ link, ∃ path, forest.MovesPath after scope target link path
  dropping : ∀ dropped link, ∃ path, forest.CutsPath dropped link path
  elements : ∀ (element : Element) (separator : String),
    ∃ path, forest.Walk (element.link forest) path ∧
      element.qualifiedName forest separator =
        separator.intercalate (names path ++ [element.name])
  separated : ∀ (element : Element) (separator : String),
    element.qualifiedName forest separator =
      match forest.path? (element.link forest) with
      | some path => separator.intercalate (path ++ [element.name])
      | none => element.name

end Scope.Forest

/-- In a workspace after any run, a living scope and a link to it have the same path: the
names on the walk out of it.

If a scope is nested under another link, the paths of the links that meet it keep the part
from this scope inwards and continue the path of the new link; the others stay as they
are.  If scopes are dropped, each link keeps the part of its path inside of the first of
them that it meets, and points nowhere if this is its own target; the others stay as they
are.

An element is named by the path of its link and its own name, and by its own name alone
if the link points nowhere. -/
theorem Workspace.names_after_moving_and_dropping {operations : List Workspace.Operation}
    {workspace : Workspace} (ran : Workspace.run operations {} = some workspace) :
    workspace.forest.NamesFollowWalks := by
  have acyclic := acyclic_run ran
  constructor
  case scopes =>
    intro scope node alive
    have walk := acyclic.walk (some scope)
    exact ⟨_, walk, walk.scopePath_eq alive, walk.path?_of_alive alive⟩
  case moving =>
    intro scope target after attached link
    have walk := acyclic.walk link
    refine ⟨_, walk, ?_, walk.path?_attach_of_not_mem attached⟩
    intro below node above met
    rw [met] at walk
    exact ⟨walk.path?_eq_append, walk.path?_attach_of_mem acyclic attached⟩
  case dropping =>
    intro dropped link
    have walk := acyclic.walk link
    refine ⟨_, walk, ?_, walk.path?_drop_of_not_mem⟩
    intro below scope node above met isDropped kept
    rw [met] at walk
    constructor
    · rw [walk.path?_eq, if_neg (by simp), Scope.Forest.names_append]
    · exact (walk.drop_of_mem isDropped kept).path?_eq
  case elements =>
    intro element separator
    have walk := acyclic.walk (element.link workspace.forest)
    exact ⟨_, walk, walk.qualifiedName_eq element.name separator⟩
  case separated =>
    intro element separator
    rw [Element.qualifiedName, Scope.Forest.qualifiedName, Scope.Forest.qualify?]
    cases workspace.forest.path? (element.link workspace.forest) with
    | none => rfl
    | some path => rfl

/-- Without the outer scope, the inner one stands alone. -/
theorem Workspace.path_of_inner_without_outer :
    ∃ workspace, Workspace.run Workspace.nestedScopes {} = some workspace ∧
      workspace.forest.path? (some ⟨1⟩) = some ["A", "B"] ∧
      (workspace.forest.drop [⟨0⟩]).path? (some ⟨1⟩) = some ["B"] := by
  have ran : Workspace.run Workspace.nestedScopes {} = some _ := rfl
  refine ⟨_, ran, ?_⟩
  have named := Workspace.names_after_moving_and_dropping ran
  rcases named.dropping [⟨0⟩] (some ⟨1⟩) with ⟨path, walk, cut, _⟩
  cases walk.unique (.step rfl (.step rfl (.stop rfl)))
  exact cut [_] ⟨0⟩ _ [] rfl (by simp) (by simp)

end CppModel
