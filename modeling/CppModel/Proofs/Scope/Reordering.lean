import CppModel.Proofs.Scope.Outlook

/-!
# Types in another order

Two forests can have the same scopes, where some of these have declared their types in
another order.  The walks from a link meet the same scopes in both, and the same is seen.

Declaring a type or nesting a scope keeps the forests alike.  In one forest, a declaration
can be made before or after another one, and before or after a scope is nested, since a
scope is above a link or not whatever types it declares.
-/

namespace CppModel.Scope

/-- The scopes are the same, except that they may have declared their types in another
order. -/
structure Node.Reorders (first second : Node) : Prop extends first.Resembles second where
  parent : first.parent = second.parent

namespace Node.Reorders

variable {first second third : Node}

theorem refl (node : Node) : node.Reorders node where
  name := rfl
  types _ := Iff.rfl
  parent := rfl

theorem symm (reorders : first.Reorders second) : second.Reorders first where
  name := reorders.name.symm
  types type := (reorders.types type).symm
  parent := reorders.parent.symm

theorem trans (reorders : first.Reorders second) (further : second.Reorders third) :
    first.Reorders third where
  name := reorders.name.trans further.name
  types type := (reorders.types type).trans (further.types type)
  parent := reorders.parent.trans further.parent

end Node.Reorders

namespace Forest

/-- The forests have the same scopes, except that these may have declared their types in
another order. -/
structure Reorders (first second : Forest) : Prop where
  size : first.nodes.size = second.nodes.size
  nodes : ∀ scope, Option.Rel Node.Reorders (first.node? scope) (second.node? scope)

theorem equivalence_rel : Equivalence (Option.Rel Node.Reorders) where
  refl found := by
    cases found with
    | none => exact .none
    | some node => exact .some (.refl node)
  symm related := by
    cases related with
    | none => exact .none
    | some reorders => exact .some reorders.symm
  trans related further := by
    cases related with
    | none => exact further
    | some reorders =>
        cases further with
        | some others => exact .some (reorders.trans others)

theorem size_update (forest : Forest) (scope : Id) (change : Node → Node) :
    (forest.update scope change).nodes.size = forest.nodes.size :=
  Array.size_modify

namespace Reorders

variable {first second : Forest}

/-- Forests with the same scopes at the same places. -/
theorem of_same (size : first.nodes.size = second.nodes.size)
    (nodes : ∀ scope, first.node? scope = second.node? scope) : first.Reorders second where
  size := size
  nodes scope := nodes scope ▸ equivalence_rel.refl _

theorem equivalence : Equivalence Reorders where
  refl _ := .of_same rfl fun _ => rfl
  symm reorders := ⟨reorders.size.symm, fun scope => equivalence_rel.symm (reorders.nodes scope)⟩
  trans reorders further :=
    ⟨reorders.size.trans further.size,
      fun scope => equivalence_rel.trans (reorders.nodes scope) (further.nodes scope)⟩

variable (reorders : first.Reorders second)

include reorders

/-- The walks from a link meet the same scopes. -/
theorem climb (limit : Nat) (link : Link) :
    List.Forall₂ (fun met other => met.1 = other.1 ∧ met.2.Reorders other.2)
      (first.climb limit link) (second.climb limit link) := by
  induction limit generalizing link with
  | zero => exact .nil
  | succ limit inductionHypothesis =>
      cases link with
      | none => exact .nil
      | some scope =>
          have related := reorders.nodes scope
          rw [climb_succ, climb_succ, target?, target?, Option.bind_some, Option.bind_some]
          generalize first.node? scope = found at related ⊢
          generalize second.node? scope = otherFound at related ⊢
          cases related with
          | none => exact .nil
          | @some node other same =>
              rw [Option.map_some, Option.map_some]
              refine .cons ⟨rfl, same⟩ ?_
              rw [same.parent]
              exact inductionHypothesis other.parent

theorem ancestors (link : Link) :
    List.Forall₂ (fun met other => met.1 = other.1 ∧ met.2.Reorders other.2)
      (first.ancestors link) (second.ancestors link) := by
  rw [Forest.ancestors, Forest.ancestors, reorders.size]
  exact reorders.climb _ link

/-- From every link, the same is seen in both forests. -/
theorem seesAlike (link : Link) : first.SeesAlike link second link :=
  (reorders.ancestors link).imp fun _ _ same => same.2.toResembles

theorem isAbove_eq (scope : Id) (link : Link) :
    first.isAbove scope link = second.isAbove scope link := by
  have met := reorders.ancestors link
  rw [isAbove, isAbove]
  generalize first.ancestors link = scopes at met ⊢
  generalize second.ancestors link = others at met ⊢
  induction met with
  | nil => rfl
  | cons same _ inductionHypothesis =>
      rw [List.any_cons, List.any_cons, same.1, inductionHypothesis]

/-- Changes that keep the order of types irrelevant lead to forests that differ in it. -/
theorem update (scope : Id) {change : Node → Node}
    (respects : ∀ node other : Node, node.Reorders other → (change node).Reorders (change other)) :
    (first.update scope change).Reorders (second.update scope change) where
  size := by rw [size_update, size_update, reorders.size]
  nodes asked := by
    rw [node?_update, node?_update]
    have related := reorders.nodes asked
    split
    · generalize first.node? asked = found at related ⊢
      generalize second.node? asked = otherFound at related ⊢
      cases related with
      | none => exact .none
      | some same => exact .some (respects _ _ same)
    · exact related

theorem declareType (scope : Id) (type : String) :
    (first.declareType scope type).Reorders (second.declareType scope type) := by
  apply reorders.update
  intro node other same
  refine ⟨⟨same.name, fun asked => ?_⟩, same.parent⟩
  rw [List.mem_append, List.mem_append, same.types]

theorem attach (scope : Id) (link : Link) :
    (first.attach scope link).2.Reorders (second.attach scope link).2 := by
  rw [Forest.attach, Forest.attach, reorders.isAbove_eq]
  split
  · exact reorders
  · exact reorders.update scope fun _ _ same => ⟨⟨same.name, same.types⟩, rfl⟩

end Reorders

/-! ## Declaring types and nesting scopes commute -/

variable (forest : Forest)

theorem reorders_declareType_comm (scope other : Id) (type otherType : String) :
    ((forest.declareType scope type).declareType other otherType).Reorders
      ((forest.declareType other otherType).declareType scope type) where
  size := by simp only [declareType, size_update]
  nodes asked := by
    simp only [declareType, node?_update]
    cases forest.node? asked with
    | none => split <;> split <;> exact .none
    | some node =>
        split <;> split
        · refine .some ⟨⟨rfl, fun type => ?_⟩, rfl⟩
          simp only [List.mem_append, or_right_comm]
        all_goals exact equivalence_rel.refl _

theorem target?_declareType (scope asked : Id) (type : String) :
    (forest.declareType scope type).target? (some asked) =
      (forest.node? asked).map fun node =>
        (asked, if asked = scope then { node with types := node.types ++ [type] } else node) := by
  rw [target?, Option.bind_some, declareType, node?_update]
  by_cases isScope : asked = scope
  · simp only [if_pos isScope, Option.map_map]
    rfl
  · simp only [if_neg isScope]

/-- The scopes that are met do not depend on declared types. -/
theorem map_fst_climb_declareType (scope : Id) (type : String) (limit : Nat) (link : Link) :
    ((forest.declareType scope type).climb limit link).map Prod.fst =
      (forest.climb limit link).map Prod.fst := by
  induction limit generalizing link with
  | zero => rfl
  | succ limit inductionHypothesis =>
      cases link with
      | none => rfl
      | some asked =>
          rw [climb_succ, climb_succ, target?_declareType, target?, Option.bind_some]
          cases forest.node? asked with
          | none => rfl
          | some node =>
              have sameParent : (if asked = scope then { node with types := node.types ++ [type] }
                  else node).parent = node.parent := by
                split <;> rfl
              simp only [Option.map_some, List.map_cons, sameParent, inductionHypothesis]

theorem isAbove_declareType (scope asked : Id) (type : String) (link : Link) :
    (forest.declareType scope type).isAbove asked link = forest.isAbove asked link := by
  have anyFst (met : List (Id × Node)) :
      met.any (·.1 == asked) = (met.map Prod.fst).any (· == asked) := by
    rw [List.any_map]
    rfl
  rw [isAbove, isAbove, anyFst, anyFst, ancestors, ancestors, map_fst_climb_declareType,
    declareType, size_update]

theorem reorders_attach_declareType (scope asked : Id) (type : String) (link : Link) :
    ((forest.declareType scope type).attach asked link).2.Reorders
      ((forest.attach asked link).2.declareType scope type) := by
  rw [attach, attach, isAbove_declareType]
  split
  · exact Reorders.equivalence.refl _
  · apply Reorders.of_same
    · simp only [declareType, size_update]
    · intro met
      simp only [declareType, node?_update]
      cases forest.node? met with
      | none => split <;> split <;> rfl
      | some node => split <;> split <;> rfl

end Forest

end CppModel.Scope
