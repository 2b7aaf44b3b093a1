import CppModel.Proofs.Calls.Additions
import CppModel.Proofs.Calls.Builders
import CppModel.Proofs.Class.Settled

/-!
# Classes on a bench

Classes are made side by side, call by call, and a class that is complete can be moved into
another one.  A bench holds the classes that are in no other class, each with its recipe:
the record of the calls that have made it, where a class that has been moved in is recorded
with its own recipe.

A class has the members of its recipe, in the order of the recipe, whatever else has been
called for in between.  No call touches a scope by hand, so every class on a bench stands
alone.
-/

namespace CppModel

open Scope

/-- How a class is made: with its name, calls on its head, and additions. -/
structure Recipe where
  name : String
  head : List Class.Head.Call := []
  additions : List (Addition Recipe) := []

/-! ## What a recipe makes -/

namespace Addition

variable {Inner : Type}

/-- The enumeration that is added, if it is one. -/
def enumeration? : Addition Inner → Option Enumeration
  | .member (.enumeration content) => some content
  | _ => none

/-- The method or the constructor that is added, if it is one. -/
def function? : Addition Inner → Option MemberFunction
  | .member (.function content) => some content
  | _ => none

/-- The variable that is added, if it is one. -/
def data? : Addition Inner → Option Variable
  | .member (.data content) => some content
  | _ => none

/-- The array that is added, if it is one. -/
def array? : Addition Inner → Option ArrayVariable
  | .member (.array content) => some content
  | _ => none

/-- What is nested, if the addition is not a member. -/
def nested? : Addition Inner → Option Inner
  | .nested inner => some inner
  | _ => none

end Addition

namespace Recipe

/-- The recipe with one more call on the head. -/
def callHead (recipe : Recipe) (call : Class.Head.Call) : Recipe :=
  { recipe with head := recipe.head ++ [call] }

/-- The recipe with one more addition. -/
def add (recipe : Recipe) (addition : Addition Recipe) : Recipe :=
  { recipe with additions := recipe.additions ++ [addition] }

/-- The head after all calls. -/
def finalHead (recipe : Recipe) : Class.Head :=
  recipe.head.foldl Class.Head.builder.take {}

/-- The members of the recipe, linked to the scope of their class. -/
def parts (recipe : Recipe) (scope : Id) : ClassParts where
  scope := scope
  name := recipe.name
  isStruct := recipe.finalHead.isStruct
  base := recipe.finalHead.base
  documentation := recipe.finalHead.documentation
  enumerations := (recipe.additions.filterMap Addition.enumeration?).map fun enumeration =>
    { enumeration with link := some scope }
  functions := (recipe.additions.filterMap Addition.function?).map (·.withLink (some scope))
  dataMembers := (recipe.additions.filterMap Addition.data?).map fun data =>
    { data with link := some scope }
  arrays := (recipe.additions.filterMap Addition.array?).map fun array =>
    { array with link := some scope }

/-- The class consists of what the recipe calls for, in whatever scopes. -/
inductive Makes : Recipe → Class → Prop
  | intro {recipe : Recipe} (scope : Id) {nested : List Class}
      (inside : List.Forall₂ Makes (recipe.additions.filterMap Addition.nested?) nested) :
      Makes recipe ⟨recipe.parts scope, nested⟩

end Recipe

theorem filterMap_snoc {Item Content : Type} (select : Item → Option Content) (items : List Item)
    (item : Item) :
    (items ++ [item]).filterMap select = items.filterMap select ++ (select item).toList := by
  rw [List.filterMap_append, List.filterMap_cons, List.filterMap_nil]
  cases select item <;> rfl

/-- The class after a call on its head. -/
def Class.callHead (owner : Class) (call : Class.Head.Call) : Class :=
  owner.withHead (Class.Head.builder.take
    ⟨owner.parts.isStruct, owner.parts.base, owner.parts.documentation⟩ call)

namespace Recipe.Makes

variable {recipe innerRecipe : Recipe} {owner inner : Class}

theorem of_parts (scope : Id) (parts : owner.parts = recipe.parts scope)
    (inside : List.Forall₂ Makes (recipe.additions.filterMap Addition.nested?) owner.nested) :
    recipe.Makes owner := by
  rcases owner with ⟨_, nested⟩
  cases parts
  exact .intro scope inside

theorem create (name : String) (forest : Forest) :
    Makes { name := name } ((Class.create name).run forest).1 :=
  .intro _ .nil

theorem callHead (makes : recipe.Makes owner) (call : Class.Head.Call) :
    (recipe.callHead call).Makes (owner.callHead call) := by
  rcases makes with ⟨scope, inside⟩
  have taken : (recipe.callHead call).finalHead =
      Class.Head.builder.take recipe.finalHead call := by
    rw [finalHead, Recipe.callHead, List.foldl_append]
    rfl
  apply of_parts scope
  · simp only [Recipe.parts, taken]
    rfl
  · exact inside

theorem addMember (makes : recipe.Makes owner) (member : Member) (forest : Forest) :
    (recipe.add (.member member)).Makes ((owner.addMember member).run forest).1 := by
  rcases makes with ⟨scope, inside⟩
  apply of_parts scope
  · simp only [Recipe.parts, add, filterMap_snoc, List.map_append]
    cases member <;>
      simp only [Addition.enumeration?, Addition.function?, Addition.data?, Addition.array?,
        Option.toList_none, Option.toList_some, List.map_nil, List.append_nil] <;>
      rfl
  · simp only [add, filterMap_snoc, Addition.nested?, Option.toList_none, List.append_nil]
    cases member <;> exact inside

theorem addClass (makes : recipe.Makes owner) (innerMakes : innerRecipe.Makes inner)
    (forest : Forest) :
    (recipe.add (.nested innerRecipe)).Makes ((owner.addClass inner).run forest).1 := by
  rcases makes with ⟨scope, inside⟩
  apply of_parts scope
  · simp only [Recipe.parts, add, filterMap_snoc, Addition.enumeration?, Addition.function?,
      Addition.data?, Addition.array?, Option.toList_none, List.append_nil]
    rfl
  · simp only [add, filterMap_snoc, Addition.nested?, Option.toList_some]
    exact List.rel_append inside (.cons innerMakes .nil)

end Recipe.Makes

/-! ## Benches -/

/-- A class that is being made. -/
structure Draft where
  recipe : Recipe
  made : Class

/-- A forest, and the classes in it that are being made. -/
structure Bench where
  forest : Forest := .empty
  drafts : List Draft := []

namespace Bench

/-- What can be done on a bench.  All but the first two are calls on the class in front. -/
inductive Call
  | create (name : String)
  /-- Turn to another class, which is told by its place. -/
  | turnTo (place : Nat)
  | head (call : Class.Head.Call)
  | add (member : Member)
  /-- Move the class in front into the one behind it. -/
  | nest

/-- Carry out a call, if the bench has the classes that it needs. -/
def perform : Bench → Call → Option Bench
  | ⟨forest, drafts⟩, .create name =>
      let (made, forest) := (Class.create name).run forest
      some ⟨forest, ⟨{ name := name }, made⟩ :: drafts⟩
  | ⟨forest, drafts⟩, .turnTo place =>
      drafts[place]?.map fun draft => ⟨forest, draft :: drafts.eraseIdx place⟩
  | ⟨forest, draft :: drafts⟩, .head call =>
      some ⟨forest, ⟨draft.recipe.callHead call, draft.made.callHead call⟩ :: drafts⟩
  | ⟨forest, draft :: drafts⟩, .add member =>
      let (made, forest) := (draft.made.addMember member).run forest
      some ⟨forest, ⟨draft.recipe.add (.member member), made⟩ :: drafts⟩
  | ⟨forest, inner :: draft :: drafts⟩, .nest =>
      let (made, forest) := (draft.made.addClass inner.made).run forest
      some ⟨forest, ⟨draft.recipe.add (.nested inner.recipe), made⟩ :: drafts⟩
  | _, _ => none

/-- Carry out calls one after another. -/
def run : List Call → Bench → Option Bench
  | [], bench => some bench
  | call :: rest, bench => (bench.perform call).bind (run rest)

/-- The bench as a workspace. -/
def workspace (bench : Bench) : Workspace where
  forest := bench.forest
  classes := bench.drafts.map Draft.made

/-- Each class is what its recipe makes, and stands alone. -/
structure Sound (bench : Bench) : Prop where
  workspace : bench.workspace.Sound
  standAlone : bench.workspace.UntouchedStandAlone []
  made : ∀ draft ∈ bench.drafts, draft.recipe.Makes draft.made

theorem Sound.empty : Sound {} where
  workspace := .empty
  standAlone := List.forall_mem_nil _
  made := List.forall_mem_nil _

variable {bench next : Bench}

/-- The order of the classes is of no account. -/
theorem Sound.turn {forest : Forest} {drafts others : List Draft}
    (sound : Sound ⟨forest, drafts⟩) (permuted : others.Perm drafts) : Sound ⟨forest, others⟩ where
  workspace :=
    { acyclic := sound.workspace.acyclic
      accounts := sound.workspace.accounts.perm
        (Workspace.scopesOfAll_perm (permuted.symm.map Draft.made))
      linked := fun owner listed =>
        sound.workspace.linked owner ((permuted.map Draft.made).mem_iff.mp listed) }
  standAlone := fun owner listed =>
    sound.standAlone owner ((permuted.map Draft.made).mem_iff.mp listed)
  made draft listed := sound.made draft (permuted.mem_iff.mp listed)

/-- A program that touches no scope by hand keeps a bench sound. -/
theorem Sound.of_leads (sound : bench.Sound) (leads : bench.workspace.Leads next.workspace)
    (made : ∀ draft ∈ next.drafts, draft.recipe.Makes draft.made) : next.Sound where
  workspace := leads.sound sound.workspace
  standAlone := by
    rcases leads with ⟨program, untouched, followed⟩
    have kept := Workspace.follow_induction
      (fun workspace => workspace.Sound ∧ workspace.UntouchedStandAlone [])
      (fun action listed workspace next holds acted => ⟨holds.1.act acted,
        holds.2.act holds.1
          (fun scope isTouched => untouched ▸ List.mem_flatMap.mpr ⟨action, listed, isTouched⟩)
          acted⟩)
      _ _ ⟨sound.workspace, sound.standAlone⟩ followed
    exact kept.2
  made := made

theorem Sound.perform {call : Call} (sound : bench.Sound)
    (performed : bench.perform call = some next) : next.Sound := by
  rcases bench with ⟨forest, drafts⟩
  cases call with
  | create name =>
      cases performed
      refine sound.of_leads ?_ (List.forall_mem_cons.mpr ⟨.create name forest, sound.made⟩)
      exact Workspace.leads_create _ name
  | turnTo place =>
      rcases Option.map_eq_some_iff.mp performed with ⟨draft, found, rfl⟩
      rcases List.getElem?_eq_some_iff.mp found with ⟨inside, rfl⟩
      exact sound.turn (List.getElem_cons_eraseIdx_perm inside)
  | head call =>
      rcases drafts with _ | ⟨draft, drafts⟩
      · cases performed
      cases performed
      rcases List.forall_mem_cons.mp sound.made with ⟨makes, others⟩
      refine sound.of_leads ?_ (List.forall_mem_cons.mpr ⟨makes.callHead call, others⟩)
      exact Workspace.leads_setHead ⟨forest, [], drafts.map Draft.made⟩ draft.made _ forest
  | add member =>
      rcases drafts with _ | ⟨draft, drafts⟩
      · cases performed
      cases performed
      rcases List.forall_mem_cons.mp sound.made with ⟨makes, others⟩
      refine sound.of_leads ?_ (List.forall_mem_cons.mpr ⟨makes.addMember member forest, others⟩)
      exact Workspace.leads_addMember ⟨forest, [], drafts.map Draft.made⟩ draft.made member forest
  | nest =>
      rcases drafts with _ | ⟨inner, _ | ⟨draft, drafts⟩⟩
      · cases performed
      · cases performed
      cases performed
      rcases List.forall_mem_cons.mp sound.made with ⟨innerMakes, further⟩
      rcases List.forall_mem_cons.mp further with ⟨makes, others⟩
      have apart : inner.made.parts.scope ≠ draft.made.parts.scope := by
        intro same
        apply (sound.workspace.scopes_apart (.refl _)).2 _ inner.made.scope_mem_scopes
          draft.made List.mem_cons_self
        exact same ▸ draft.made.scope_mem_scopes
      have added := makes.addClass innerMakes forest
      refine sound.of_leads ?_ (List.forall_mem_cons.mpr ⟨added, others⟩)
      exact @Workspace.leads_addClass _ _ ⟨forest, [], drafts.map Draft.made⟩ forest forest apart

/-- Whatever is called for on a bench, it is sound afterwards. -/
theorem Sound.run {calls : List Call} (sound : bench.Sound)
    (ran : Bench.run calls bench = some next) : next.Sound := by
  induction calls generalizing bench with
  | nil =>
      cases ran
      exact sound
  | cons call rest inductionHypothesis =>
      rcases Option.bind_eq_some_iff.mp ran with ⟨middle, performed, restRan⟩
      exact inductionHypothesis (sound.perform performed) restRan

end Bench

end CppModel
