import CppModel.Scope.Forest

/-!
# What an operation changes

A forest has four operations: making a scope, recording a type, nesting a scope under a
link, and dropping scopes.  Each of them is told here by the nodes that it leaves behind.
A scope that is alive stays alive unless it is dropped, and a parent link changes by
nesting alone.
-/

namespace CppModel.Scope.Forest

variable {forest : Forest} {scope asked : Id} {link : Link} {node : Node}

theorem target?_eq_some_iff :
    forest.target? link = some (scope, node) ↔
      link = some scope ∧ forest.node? scope = some node := by
  cases link with
  | none => simp
  | some other =>
      simp only [target?, Option.bind_some, Option.map_eq_some_iff, Prod.mk.injEq,
        Option.some.injEq]
      constructor
      · rintro ⟨found, alive, rfl, rfl⟩
        exact ⟨rfl, alive⟩
      · rintro ⟨rfl, alive⟩
        exact ⟨node, alive, rfl, rfl⟩

theorem target?_some_eq_none_iff :
    forest.target? (some scope) = none ↔ forest.node? scope = none := by
  simp [target?]

theorem isAttached_some (forest : Forest) (scope : Id) :
    forest.isAttached (some scope) = (forest.node? scope).isSome := by
  simp [isAttached, target?]

theorem index_lt_of_node? (alive : forest.node? scope = some node) :
    scope.index < forest.nodes.size := by
  unfold node? at alive
  cases entry : forest.nodes[scope.index]? with
  | none =>
      rw [entry] at alive
      cases alive
  | some value => exact (Array.getElem?_eq_some_iff.mp entry).1

/-- The scope that is made is not alive before. -/
theorem node?_create_fst (forest : Forest) (name : String) :
    forest.node? (forest.create name).1 = none := by
  simp [create, node?]

/-- An accepted attachment sets the link of the scope. -/
theorem node?_attach (accepted : forest.isAbove scope link = false) (asked : Id) :
    (forest.attach scope link).2.node? asked =
      if asked = scope then (forest.node? asked).map fun node => { node with parent := link }
      else forest.node? asked := by
  rw [attach, accepted]
  exact node?_update forest scope asked _

/-- An attachment is refused and changes nothing, or is accepted. -/
theorem attach_cases {answer : Bool} {after : Forest}
    (attached : forest.attach scope link = (answer, after)) :
    (forest.isAbove scope link = true ∧ answer = false ∧ after = forest) ∨
      (forest.isAbove scope link = false ∧ answer = true ∧
        after = (forest.attach scope link).2) := by
  cases above : forest.isAbove scope link with
  | true =>
      rw [attach_of_isAbove above] at attached
      cases attached
      exact .inl ⟨rfl, rfl, rfl⟩
  | false =>
      have accepted : (forest.attach scope link).1 = true := by
        rw [attach, above]
        rfl
      rw [attached] at accepted ⊢
      exact .inr ⟨rfl, accepted, rfl⟩

theorem node?_modify_none (forest : Forest) (dropped asked : Id) :
    node? ⟨forest.nodes.modify dropped.index fun _ => none⟩ asked =
      if asked = dropped then none else forest.node? asked := by
  obtain ⟨dropped⟩ := dropped
  obtain ⟨asked⟩ := asked
  by_cases same : asked = dropped
  · subst same
    simp only [node?, Array.getElem?_modify]
    cases forest.nodes[asked]? with
    | none => simp
    | some entry => simp
  · have other : dropped ≠ asked := fun equal => same equal.symm
    simp [node?, Array.getElem?_modify, same, other]

/-- Dropping scopes leaves the others as they were. -/
theorem node?_drop (forest : Forest) (dropped : List Id) (asked : Id) :
    (forest.drop dropped).node? asked =
      if asked ∈ dropped then none else forest.node? asked := by
  rw [drop]
  induction dropped generalizing forest with
  | nil => simp
  | cons first rest inductionHypothesis =>
      rw [List.foldl_cons, inductionHypothesis, node?_modify_none]
      by_cases isFirst : asked = first
      · simp [isFirst]
      · simp [isFirst]

/-! ## Scopes that stay alive -/

/-- Every scope that is alive before is alive after. -/
def Outlives (before after : Forest) : Prop :=
  ∀ scope, before.isAttached (some scope) = true → after.isAttached (some scope) = true

theorem Outlives.refl (forest : Forest) : forest.Outlives forest :=
  fun _ alive => alive

theorem Outlives.trans {before middle after : Forest} (first : before.Outlives middle)
    (second : middle.Outlives after) : before.Outlives after :=
  fun scope alive => second scope (first scope alive)

theorem isAttached_update (forest : Forest) (changed asked : Id) (change : Node → Node) :
    (forest.update changed change).isAttached (some asked) = forest.isAttached (some asked) := by
  simp only [isAttached_some, node?_update]
  split <;> simp

theorem isAttached_attach (forest : Forest) (scope asked : Id) (link : Link) :
    (forest.attach scope link).2.isAttached (some asked) = forest.isAttached (some asked) := by
  rw [attach]
  split
  · rfl
  · exact isAttached_update _ _ _ _

theorem isAttached_create (forest : Forest) (name : String) (asked : Id) :
    (forest.create name).2.isAttached (some asked) = true ↔
      asked = (forest.create name).1 ∨ forest.isAttached (some asked) = true := by
  rw [isAttached_some, isAttached_some, node?_create]
  by_cases isNew : asked = (forest.create name).1
  · simp [isNew]
  · simp [isNew]

theorem isAttached_drop (forest : Forest) (dropped : List Id) (asked : Id) :
    (forest.drop dropped).isAttached (some asked) = true ↔
      asked ∉ dropped ∧ forest.isAttached (some asked) = true := by
  rw [isAttached_some, isAttached_some, node?_drop]
  by_cases isDropped : asked ∈ dropped
  · simp [isDropped]
  · simp [isDropped]

theorem outlives_update (forest : Forest) (changed : Id) (change : Node → Node) :
    forest.Outlives (forest.update changed change) := by
  intro scope alive
  rw [isAttached_update]
  exact alive

theorem outlives_attach (forest : Forest) (scope : Id) (link : Link) :
    forest.Outlives (forest.attach scope link).2 := by
  intro asked alive
  rw [isAttached_attach]
  exact alive

theorem outlives_create (forest : Forest) (name : String) :
    forest.Outlives (forest.create name).2 := by
  intro scope alive
  rw [isAttached_create]
  exact .inr alive

end CppModel.Scope.Forest
