import CppModel.Class.Basic
import CppModel.Proofs.Scope.Walk

/-!
# Workspaces

A workspace is a program in the middle of its work: a forest, the scopes that stand alone,
and the classes that are in no other class.  Whoever owns a scope may nest it anywhere;
a class can be filled and moved into another class as long as it stands for itself, and
what is dropped takes everything that it owns with it.

All that an operation does to the forest is a sequence of the operations of forests, so
what these preserve holds after every run.  The owners keep account of the scopes that
are alive.
-/

namespace CppModel

open Scope

/-- What can be put into a class, apart from another class. -/
inductive Member
  | function (content : MemberFunction)
  | data (content : Variable)
  | array (content : ArrayVariable)
  | enumeration (content : Enumeration)

/-- The class with a member added. -/
def Class.addMember (owner : Class) : Member → StateM Forest Class
  | .function content => pure (owner.addFunction content)
  | .data content => pure (owner.addVariable content)
  | .array content => pure (owner.addArray content)
  | .enumeration content => owner.addEnumeration content

/-- A forest, and what owns the scopes in it. -/
structure Workspace where
  forest : Forest := .empty
  /-- The scopes that stand alone. -/
  scopes : List Id := []
  /-- The classes that are in no other class. -/
  classes : List Class := []

namespace Workspace

/-- What can be done in a workspace.  A class is told by its scope. -/
inductive Operation
  | createScope (name : String)
  | createClass (name : String)
  | attach (scope : Id) (link : Link)
  | declareType (scope : Id) (type : String)
  | addMember (owner : Id) (member : Member)
  | addClass (owner inner : Id)
  | dropScope (scope : Id)
  | dropClass (owner : Id)

/-- The class with the given scope, and the other ones. -/
def take? (scope : Id) : List Class → Option (Class × List Class)
  | [] => none
  | owner :: rest =>
      if owner.parts.scope = scope then some (owner, rest)
      else (take? scope rest).map fun (found, others) => (found, owner :: others)

/-- Carry out an operation on a workspace that has what it speaks of. -/
def perform (workspace : Workspace) : Operation → Option Workspace
  | .createScope name =>
      let (scope, forest) := workspace.forest.create name
      some { workspace with forest := forest, scopes := scope :: workspace.scopes }
  | .createClass name =>
      let (owner, forest) := (Class.create name).run workspace.forest
      some { workspace with forest := forest, classes := owner :: workspace.classes }
  | .attach scope link =>
      if workspace.forest.isAttached (some scope) then
        some { workspace with forest := (workspace.forest.attach scope link).2 }
      else none
  | .declareType scope type =>
      if workspace.forest.isAttached (some scope) then
        some { workspace with forest := workspace.forest.declareType scope type }
      else none
  | .addMember owner member => do
      let (owner, others) ← take? owner workspace.classes
      let (filled, forest) := (owner.addMember member).run workspace.forest
      some { workspace with forest := forest, classes := filled :: others }
  | .addClass owner inner => do
      let (owner, others) ← take? owner workspace.classes
      let (inner, others) ← take? inner others
      let (filled, forest) := (owner.addClass inner).run workspace.forest
      some { workspace with forest := forest, classes := filled :: others }
  | .dropScope scope =>
      if scope ∈ workspace.scopes then
        some { workspace with
          forest := workspace.forest.drop [scope], scopes := workspace.scopes.erase scope }
      else none
  | .dropClass owner => do
      let (owner, others) ← take? owner workspace.classes
      some { workspace with forest := workspace.forest.drop owner.scopes, classes := others }

/-- Carry out operations one after another. -/
def run : List Operation → Workspace → Option Workspace
  | [], workspace => some workspace
  | operation :: rest, workspace => (workspace.perform operation).bind (run rest)

theorem run_cons_eq_some_iff (operation : Operation) (rest : List Operation)
    (workspace last : Workspace) :
    run (operation :: rest) workspace = some last ↔
      ∃ next, workspace.perform operation = some next ∧ run rest next = some last := by
  rw [run, Option.bind_eq_some_iff]

/-- A property that every operation preserves holds after every run. -/
theorem run_induction (holds : Workspace → Prop)
    (step : ∀ workspace operation next, holds workspace →
      workspace.perform operation = some next → holds next) :
    ∀ operations workspace last, holds workspace →
      run operations workspace = some last → holds last := by
  intro operations
  induction operations with
  | nil =>
      rintro workspace last initial ran
      cases ran
      exact initial
  | cons operation rest inductionHypothesis =>
      intro workspace last initial ran
      rcases (run_cons_eq_some_iff operation rest workspace last).mp ran with
        ⟨next, performed, restRan⟩
      exact inductionHypothesis next last (step workspace operation next initial performed) restRan

/-! ## What an operation does -/

theorem take?_perm {scope : Id} {classes others : List Class} {found : Class}
    (taken : take? scope classes = some (found, others)) :
    found.parts.scope = scope ∧ classes.Perm (found :: others) := by
  induction classes generalizing others with
  | nil => cases taken
  | cons owner rest inductionHypothesis =>
      rw [take?] at taken
      split at taken
      · rename_i isFirst
        cases taken
        exact ⟨isFirst, .refl _⟩
      · rcases Option.map_eq_some_iff.mp taken with ⟨⟨inner, remaining⟩, restTaken, equal⟩
        cases equal
        rcases inductionHypothesis restTaken with ⟨isScope, permuted⟩
        exact ⟨isScope, (permuted.cons owner).trans (.swap _ _ _)⟩

variable {workspace next : Workspace}

theorem perform_attach {scope : Id} {link : Link}
    (performed : workspace.perform (.attach scope link) = some next) :
    next = { workspace with forest := (workspace.forest.attach scope link).2 } := by
  rw [perform] at performed
  split at performed
  · cases performed
    rfl
  · cases performed

theorem perform_declareType {scope : Id} {type : String}
    (performed : workspace.perform (.declareType scope type) = some next) :
    next = { workspace with forest := workspace.forest.declareType scope type } := by
  rw [perform] at performed
  split at performed
  · cases performed
    rfl
  · cases performed

theorem perform_addMember {scope : Id} {member : Member}
    (performed : workspace.perform (.addMember scope member) = some next) :
    ∃ owner others, workspace.classes.Perm (owner :: others) ∧ owner.parts.scope = scope ∧
      next = { workspace with
        forest := ((owner.addMember member).run workspace.forest).2
        classes := ((owner.addMember member).run workspace.forest).1 :: others } := by
  rw [perform, Option.bind_eq_bind, Option.bind_eq_some_iff] at performed
  rcases performed with ⟨⟨owner, others⟩, taken, added⟩
  cases added
  rcases take?_perm taken with ⟨isScope, permuted⟩
  exact ⟨owner, others, permuted, isScope, rfl⟩

theorem perform_addClass {scope innerScope : Id}
    (performed : workspace.perform (.addClass scope innerScope) = some next) :
    ∃ owner inner others, workspace.classes.Perm (owner :: inner :: others) ∧
      owner.parts.scope = scope ∧ inner.parts.scope = innerScope ∧
      next = { workspace with
        forest := ((owner.addClass inner).run workspace.forest).2
        classes := ((owner.addClass inner).run workspace.forest).1 :: others } := by
  rw [perform, Option.bind_eq_bind, Option.bind_eq_some_iff] at performed
  rcases performed with ⟨⟨owner, remaining⟩, taken, added⟩
  rcases Option.bind_eq_some_iff.mp added with ⟨⟨inner, others⟩, innerTaken, complete⟩
  cases complete
  rcases take?_perm taken with ⟨isScope, permuted⟩
  rcases take?_perm innerTaken with ⟨isInnerScope, innerPermuted⟩
  exact ⟨owner, inner, others, permuted.trans (innerPermuted.cons owner), isScope,
    isInnerScope, rfl⟩

theorem perform_dropScope {scope : Id}
    (performed : workspace.perform (.dropScope scope) = some next) :
    scope ∈ workspace.scopes ∧
      next = { workspace with
        forest := workspace.forest.drop [scope], scopes := workspace.scopes.erase scope } := by
  rw [perform] at performed
  split at performed
  · rename_i owned
    cases performed
    exact ⟨owned, rfl⟩
  · cases performed

theorem perform_dropClass {scope : Id}
    (performed : workspace.perform (.dropClass scope) = some next) :
    ∃ owner others, workspace.classes.Perm (owner :: others) ∧ owner.parts.scope = scope ∧
      next = { workspace with
        forest := workspace.forest.drop owner.scopes, classes := others } := by
  rw [perform, Option.bind_eq_bind, Option.bind_eq_some_iff] at performed
  rcases performed with ⟨⟨owner, others⟩, taken, dropped⟩
  cases dropped
  rcases take?_perm taken with ⟨isScope, permuted⟩
  exact ⟨owner, others, permuted, isScope, rfl⟩

/-! ## Every run leaves an acyclic forest -/

theorem acyclic_addMember {forest : Forest} (acyclic : forest.Acyclic) (owner : Class)
    (member : Member) : ((owner.addMember member).run forest).2.Acyclic := by
  cases member with
  | function content => exact acyclic
  | data content => exact acyclic
  | array content => exact acyclic
  | enumeration content => exact Forest.acyclic_declareType acyclic _ _

theorem acyclic_addClass {forest : Forest} (acyclic : forest.Acyclic) (owner inner : Class) :
    ((owner.addClass inner).run forest).2.Acyclic :=
  Forest.acyclic_attach (Forest.acyclic_declareType acyclic _ _) _ _

theorem acyclic_perform (acyclic : workspace.forest.Acyclic) {operation : Operation}
    (performed : workspace.perform operation = some next) : next.forest.Acyclic := by
  cases operation with
  | createScope name =>
      cases performed
      exact Forest.acyclic_create acyclic name
  | createClass name =>
      cases performed
      exact Forest.acyclic_create acyclic name
  | attach scope link =>
      cases perform_attach performed
      exact Forest.acyclic_attach acyclic scope link
  | declareType scope type =>
      cases perform_declareType performed
      exact Forest.acyclic_declareType acyclic scope type
  | addMember scope member =>
      rcases perform_addMember performed with ⟨owner, _, _, _, rfl⟩
      exact acyclic_addMember acyclic owner member
  | addClass scope innerScope =>
      rcases perform_addClass performed with ⟨owner, inner, _, _, _, _, rfl⟩
      exact acyclic_addClass acyclic owner inner
  | dropScope scope =>
      rcases perform_dropScope performed with ⟨_, rfl⟩
      exact Forest.acyclic_drop acyclic _
  | dropClass scope =>
      rcases perform_dropClass performed with ⟨owner, _, _, _, rfl⟩
      exact Forest.acyclic_drop acyclic _

/-- No run of operations closes a circle. -/
theorem acyclic_run {operations : List Operation}
    (ran : run operations {} = some workspace) : workspace.forest.Acyclic :=
  run_induction (fun workspace => workspace.forest.Acyclic)
    (fun _ _ _ acyclic performed => acyclic_perform acyclic performed)
    operations {} workspace Forest.acyclic_empty ran

/-! ## What is alive is owned -/

/-- The list names every scope that is alive, and each of them once. -/
structure Accounts (forest : Forest) (owned : List Id) : Prop where
  alive (scope : Id) : forest.isAttached (some scope) = true ↔ scope ∈ owned
  distinct : owned.Nodup

namespace Accounts

variable {forest after : Forest} {owned others : List Id}

theorem empty : Accounts .empty [] where
  alive scope := by simp [Forest.isAttached_some, Forest.empty, Forest.node?]
  distinct := .nil

theorem perm (accounts : Accounts forest owned) (permuted : owned.Perm others) :
    Accounts forest others where
  alive scope := (accounts.alive scope).trans permuted.mem_iff
  distinct := permuted.nodup_iff.mp accounts.distinct

theorem create (accounts : Accounts forest owned) (name : String) :
    Accounts (forest.create name).2 ((forest.create name).1 :: owned) where
  alive scope := by rw [Forest.isAttached_create, accounts.alive, List.mem_cons]
  distinct := by
    refine List.nodup_cons.mpr ⟨fun isOwned => ?_, accounts.distinct⟩
    have wasAlive := (accounts.alive _).mpr isOwned
    rw [Forest.isAttached_some, Forest.node?_create_fst] at wasAlive
    cases wasAlive

theorem of_same (accounts : Accounts forest owned)
    (same : ∀ scope, after.isAttached (some scope) = forest.isAttached (some scope)) :
    Accounts after owned where
  alive scope := by rw [same, accounts.alive]
  distinct := accounts.distinct

theorem drop {dropped : List Id} (accounts : Accounts forest (dropped ++ others)) :
    Accounts (forest.drop dropped) others where
  alive scope := by
    rw [Forest.isAttached_drop, accounts.alive, List.mem_append]
    have apart := List.disjoint_of_nodup_append accounts.distinct
    constructor
    · rintro ⟨kept, inDropped | inOthers⟩
      · exact absurd inDropped kept
      · exact inOthers
    · intro inOthers
      exact ⟨fun inDropped => apart inDropped inOthers, .inr inOthers⟩
  distinct := (List.nodup_append.mp accounts.distinct).2.1

end Accounts

/-- The scopes that something in the workspace owns. -/
def owned (workspace : Workspace) : List Id :=
  workspace.scopes ++ Class.scopesOfAll workspace.classes

theorem scopesOfAll_eq_flatMap (classes : List Class) :
    Class.scopesOfAll classes = classes.flatMap Class.scopes := by
  induction classes with
  | nil => rfl
  | cons first rest inductionHypothesis =>
      rw [Class.scopesOfAll, inductionHypothesis, List.flatMap_cons]

theorem scopesOfAll_perm {classes others : List Class} (permuted : classes.Perm others) :
    (Class.scopesOfAll classes).Perm (Class.scopesOfAll others) := by
  rw [scopesOfAll_eq_flatMap, scopesOfAll_eq_flatMap]
  exact permuted.flatMap_right _

/-- A member owns no scope. -/
theorem scopes_addMember (owner : Class) (member : Member) (forest : Forest) :
    ((owner.addMember member).run forest).1.scopes = owner.scopes := by
  cases owner
  cases member <;> rfl

theorem isAttached_addMember (owner : Class) (member : Member) (forest : Forest) (scope : Id) :
    ((owner.addMember member).run forest).2.isAttached (some scope) =
      forest.isAttached (some scope) := by
  cases member with
  | function content => rfl
  | data content => rfl
  | array content => rfl
  | enumeration content => exact Forest.isAttached_update _ _ _ _

theorem scopes_addClass (owner inner : Class) (forest : Forest) :
    ((owner.addClass inner).run forest).1.scopes = owner.scopes ++ inner.scopes := by
  cases owner with
  | mk parts nested =>
      change Class.scopes ⟨parts, nested ++ [inner]⟩ = _
      rw [Class.scopes, Class.scopes, scopesOfAll_eq_flatMap, scopesOfAll_eq_flatMap,
        List.flatMap_append, List.flatMap_singleton, List.cons_append]

theorem isAttached_addClass (owner inner : Class) (forest : Forest) (scope : Id) :
    ((owner.addClass inner).run forest).2.isAttached (some scope) =
      forest.isAttached (some scope) :=
  (Forest.isAttached_attach _ _ _ _).trans (Forest.isAttached_update _ _ _ _)

theorem accounts_perform (accounts : Accounts workspace.forest workspace.owned)
    {operation : Operation} (performed : workspace.perform operation = some next) :
    Accounts next.forest next.owned := by
  cases operation with
  | createScope name =>
      cases performed
      exact accounts.create name
  | createClass name =>
      cases performed
      exact (accounts.create name).perm List.perm_middle.symm
  | attach scope link =>
      cases perform_attach performed
      exact accounts.of_same fun asked => Forest.isAttached_attach _ _ _ _
  | declareType scope type =>
      cases perform_declareType performed
      exact accounts.of_same fun asked => Forest.isAttached_update _ _ _ _
  | addMember scope member =>
      rcases perform_addMember performed with ⟨owner, others, permuted, _, rfl⟩
      apply (accounts.of_same fun asked => isAttached_addMember owner member _ asked).perm
      apply (scopesOfAll_perm permuted).append_left workspace.scopes |>.trans
      rw [owned]
      rw [Class.scopesOfAll, Class.scopesOfAll, scopes_addMember]
  | addClass scope innerScope =>
      rcases perform_addClass performed with ⟨owner, inner, others, permuted, _, _, rfl⟩
      apply (accounts.of_same fun asked => isAttached_addClass owner inner _ asked).perm
      apply (scopesOfAll_perm permuted).append_left workspace.scopes |>.trans
      rw [owned]
      rw [Class.scopesOfAll, Class.scopesOfAll, Class.scopesOfAll, scopes_addClass,
        List.append_assoc]
  | dropScope scope =>
      rcases perform_dropScope performed with ⟨isOwned, rfl⟩
      apply Accounts.drop
      exact accounts.perm ((List.perm_cons_erase isOwned).append_right _)
  | dropClass scope =>
      rcases perform_dropClass performed with ⟨owner, others, permuted, _, rfl⟩
      apply Accounts.drop
      apply accounts.perm
      apply (scopesOfAll_perm permuted).append_left workspace.scopes |>.trans
      rw [owned]
      rw [Class.scopesOfAll, ← List.append_assoc, ← List.append_assoc]
      exact List.perm_append_comm.append_right _

/-- Two scopes of which the second lies in the first. -/
def nestedScopes : List Operation :=
  [.createScope "A", .createScope "B", .attach ⟨1⟩ (some ⟨0⟩)]

end Workspace

end CppModel
