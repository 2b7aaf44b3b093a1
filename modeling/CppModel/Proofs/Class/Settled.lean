import CppModel.Proofs.Class.Program

/-!
# Settled classes

A class declares its enumerations and its nested classes as types of its scope, and a
nested class lies in the scope of its class.  The list of types and the links are kept in
the forest, apart from the members.  A class is settled if for every class of its tree
they say the same.

Programs keep the classes settled whose scopes they do not touch by hand.  A class that is
moved into another one then stands for itself, and so does the other one, so the move is
never refused.
-/

namespace CppModel

open Scope

namespace Scope.Forest

variable {forest : Forest} {scope asked : Id}

/-- The name of a scope and the types that it declares. -/
def declared? (forest : Forest) (scope : Id) : Option (String × List String) :=
  (forest.node? scope).map fun node => (node.name, node.types)

theorem declared?_declareType (forest : Forest) (scope asked : Id) (type : String) :
    (forest.declareType scope type).declared? asked =
      if asked = scope then
        (forest.declared? asked).map fun (name, types) => (name, types ++ [type])
      else forest.declared? asked := by
  rw [declared?, declared?, declareType, node?_update]
  by_cases same : asked = scope
  · rw [if_pos same, if_pos same, Option.map_map, Option.map_map]
    rfl
  · rw [if_neg same, if_neg same]

theorem parent_declareType (forest : Forest) (scope asked : Id) (type : String) :
    (forest.declareType scope type).parent asked = forest.parent asked := by
  rw [parent, parent, declareType, node?_update]
  by_cases same : asked = scope
  · rw [if_pos same]
    cases forest.node? asked <;> rfl
  · rw [if_neg same]

theorem declared?_attach (forest : Forest) (scope asked : Id) (link : Link) :
    (forest.attach scope link).2.declared? asked = forest.declared? asked := by
  rw [attach]
  split
  · rfl
  · rw [declared?, declared?, node?_update]
    by_cases same : asked = scope
    · rw [if_pos same, Option.map_map]
      rfl
    · rw [if_neg same]

theorem node?_attach_of_ne (link : Link) (other : asked ≠ scope) :
    (forest.attach scope link).2.node? asked = forest.node? asked := by
  rw [attach]
  split
  · rfl
  · rw [node?_update, if_neg other]

theorem node?_declareType_of_ne (type : String) (other : asked ≠ scope) :
    (forest.declareType scope type).node? asked = forest.node? asked := by
  rw [declareType, node?_update, if_neg other]

theorem node?_create_of_isAttached (name : String)
    (alive : forest.isAttached (some asked) = true) :
    (forest.create name).2.node? asked = forest.node? asked := by
  rw [node?_create, if_neg]
  rintro rfl
  rw [isAttached_some, node?_create_fst] at alive
  cases alive

/-- An accepted attachment puts a living scope under the link. -/
theorem parent_attach {link : Link} (accepted : forest.isAbove scope link = false)
    (alive : forest.isAttached (some scope) = true) :
    (forest.attach scope link).2.parent scope = link := by
  rw [isAttached_some, Option.isSome_iff_exists] at alive
  rcases alive with ⟨node, isNode⟩
  rw [parent, node?_attach accepted, if_pos rfl, isNode]
  rfl

/-- Nothing is above a scope that lies in no other one. -/
theorem isAbove_eq_false {outer : Id} (alive : forest.isAttached (some outer) = true)
    (outermost : forest.parent outer = none) (apart : scope ≠ outer) :
    forest.isAbove scope (some outer) = false := by
  rw [isAttached_some, Option.isSome_iff_exists] at alive
  rcases alive with ⟨node, isNode⟩
  rw [parent, isNode, Option.bind_some] at outermost
  have walk : forest.Walk (some outer) [(outer, node)] := by
    apply Walk.step (target?_eq_some_iff.mpr ⟨rfl, isNode⟩)
    rw [outermost]
    exact .stop rfl
  rw [Bool.eq_false_iff, ne_eq, isAbove_iff, walk.ancestors_eq]
  simpa using apart

theorem parent_eq_of_node?_eq {after : Forest}
    (same : after.node? scope = forest.node? scope) : after.parent scope = forest.parent scope := by
  rw [parent, same, parent]

theorem declared?_eq_of_node?_eq {after : Forest}
    (same : after.node? scope = forest.node? scope) :
    after.declared? scope = forest.declared? scope := by
  rw [declared?, same, declared?]

end Scope.Forest

namespace Class

/-- The members of a class that are types. -/
def types (owner : Class) : List Element :=
  owner.parts.enumerations.map .enumeration ++ owner.nested.map .classType

/-- The scope of the class has its name and declares its types, and its nested classes lie
in this scope. -/
structure IsRecorded (forest : Forest) (owner : Class) : Prop where
  declares : ∃ types, forest.declared? owner.parts.scope = some (owner.parts.name, types) ∧
    ∀ type, type ∈ types ↔ type ∈ owner.types.map (·.name)
  inside : ∀ inner ∈ owner.nested, forest.parent inner.parts.scope = owner.memberLink

/-- Every class of the tree is recorded in the forest. -/
def IsSettled (forest : Forest) (owner : Class) : Prop :=
  ∀ inner ∈ owner.tree, inner.IsRecorded forest

/-- The class is settled and lies in no scope. -/
structure StandsAlone (forest : Forest) (owner : Class) : Prop where
  settled : owner.IsSettled forest
  outermost : forest.parent owner.parts.scope = none

variable {before after forest : Forest} {owner inner : Class}

theorem isSettled_iff (forest : Forest) (owner : Class) :
    owner.IsSettled forest ↔
      owner.IsRecorded forest ∧ ∀ inner ∈ owner.nested, inner.IsSettled forest :=
  forall_mem_tree_iff owner _

theorem scopes_eq (owner : Class) :
    owner.scopes = owner.parts.scope :: owner.nested.flatMap scopes := by
  cases owner with
  | mk parts nested => rw [scopes, Workspace.scopesOfAll_eq_flatMap]

/-- What a settled class says about the forest is about the scopes of its tree, and about
the links of those inside it. -/
theorem IsSettled.frame (settled : owner.IsSettled before)
    (declared : ∀ scope ∈ owner.scopes, after.declared? scope = before.declared? scope)
    (parents : ∀ scope ∈ owner.nested.flatMap scopes, after.parent scope = before.parent scope) :
    owner.IsSettled after := by
  induction owner using induction_on with
  | step parts nested inductionHypothesis =>
      rw [scopes_eq, List.forall_mem_cons, List.forall_mem_flatMap] at declared
      rw [List.forall_mem_flatMap] at parents
      rw [isSettled_iff] at settled ⊢
      rcases settled with ⟨⟨ownTypes, ownInside⟩, nestedSettled⟩
      refine ⟨⟨?_, ?_⟩, ?_⟩
      · rw [declared.1]
        exact ownTypes
      · intro inner listed
        rw [parents inner listed _ inner.scope_mem_scopes]
        exact ownInside inner listed
      · intro inner listed
        apply inductionHypothesis inner listed (nestedSettled inner listed)
        · exact declared.2 inner listed
        · intro scope owned
          apply parents inner listed
          rw [scopes_eq]
          exact List.mem_cons_of_mem _ owned

theorem IsSettled.of_same (settled : owner.IsSettled before)
    (same : ∀ scope ∈ owner.scopes, after.node? scope = before.node? scope) :
    owner.IsSettled after := by
  apply settled.frame
  · intro scope owned
    exact Forest.declared?_eq_of_node?_eq (same scope owned)
  · intro scope owned
    apply Forest.parent_eq_of_node?_eq (same scope _)
    rw [scopes_eq]
    exact List.mem_cons_of_mem _ owned

theorem StandsAlone.of_same (stands : owner.StandsAlone before)
    (same : ∀ scope ∈ owner.scopes, after.node? scope = before.node? scope) :
    owner.StandsAlone after where
  settled := stands.settled.of_same same
  outermost := by
    rw [Forest.parent_eq_of_node?_eq (same _ owner.scope_mem_scopes)]
    exact stands.outermost

/-! ## Adding keeps classes settled -/

theorem standsAlone_create (name : String) (forest : Forest) :
    ((create name).run forest).1.StandsAlone ((create name).run forest).2 := by
  have created : (forest.create name).2.node? (forest.create name).1 = some ⟨name, none, []⟩ := by
    rw [Forest.node?_create, if_pos rfl]
  constructor
  · rw [isSettled_iff]
    refine ⟨⟨⟨[], ?_, fun type => Iff.rfl⟩, List.forall_mem_nil _⟩, List.forall_mem_nil _⟩
    exact congrArg (Option.map fun node => (node.name, node.types)) created
  · exact congrArg (Option.bind · (·.parent)) created

/-- A class with one more type is recorded as soon as the name of the type is declared and
the nested classes lie in its scope. -/
theorem IsRecorded.addType {next : Class} (recorded : owner.IsRecorded before) (name : String)
    (sameScope : next.parts.scope = owner.parts.scope)
    (sameName : next.parts.name = owner.parts.name)
    (added : ∀ type, type ∈ next.types.map (·.name) ↔
      type ∈ owner.types.map (·.name) ∨ type = name)
    (declared : after.declared? owner.parts.scope =
      (before.declareType owner.parts.scope name).declared? owner.parts.scope)
    (inside : ∀ inner ∈ next.nested, after.parent inner.parts.scope = owner.memberLink) :
    next.IsRecorded after := by
  rcases recorded.declares with ⟨types, known, same⟩
  refine ⟨⟨types ++ [name], ?_, ?_⟩, ?_⟩
  · rw [sameScope, sameName, declared, Forest.declared?_declareType, if_pos rfl, known]
    rfl
  · intro type
    rw [added, List.mem_append, List.mem_singleton, same]
  · rw [memberLink, sameScope]
    exact inside

theorem isAttached_of_isSettled (settled : owner.IsSettled forest) :
    forest.isAttached (some owner.parts.scope) = true := by
  rcases ((isSettled_iff _ _).mp settled).1.declares with ⟨types, known, _⟩
  rcases Option.map_eq_some_iff.mp known with ⟨node, isNode, _⟩
  rw [Forest.isAttached_some, isNode]
  rfl

/-- Nesting the scope of a class elsewhere changes nothing inside the class. -/
theorem IsSettled.attach {scope : Id} (settled : owner.IsSettled forest)
    (notInside : scope ∉ owner.nested.flatMap scopes) (link : Link) :
    owner.IsSettled (forest.attach scope link).2 := by
  apply settled.frame
  · intro asked _
    exact Forest.declared?_attach _ _ _ _
  · intro asked inside
    apply Forest.parent_eq_of_node?_eq (Forest.node?_attach_of_ne link _)
    rintro rfl
    exact notInside inside

/-- What a scope declares is seen nowhere else. -/
theorem IsSettled.declareType {scope : Id} (settled : owner.IsSettled forest)
    (elsewhere : scope ∉ owner.scopes) (type : String) :
    owner.IsSettled (forest.declareType scope type) := by
  apply settled.of_same
  intro asked owned
  apply Forest.node?_declareType_of_ne
  rintro rfl
  exact elsewhere owned

theorem mem_map_name_types_addEnumeration (owner : Class) (enumeration : Enumeration)
    (forest : Forest) (type : String) :
    type ∈ ((owner.addEnumeration enumeration).run forest).1.types.map (·.name) ↔
      type ∈ owner.types.map (·.name) ∨ type = enumeration.name := by
  change type ∈ ((owner.parts.enumerations ++
    [{ enumeration with link := owner.memberLink }]).map Element.enumeration ++ _).map _ ↔ _
  simp only [types, List.map_append, List.mem_append, List.map_cons, List.map_nil,
    List.mem_singleton]
  exact or_right_comm

theorem mem_map_name_types_addClass (owner inner : Class) (forest : Forest) (type : String) :
    type ∈ ((owner.addClass inner).run forest).1.types.map (·.name) ↔
      type ∈ owner.types.map (·.name) ∨ type = inner.parts.name := by
  change type ∈ (_ ++ (owner.nested ++ [inner]).map Element.classType).map _ ↔ _
  simp only [types, List.map_append, List.mem_append, List.map_cons, List.map_nil,
    List.mem_singleton]
  exact or_assoc.symm

/-- Members that are no types make no difference, and neither does the head. -/
theorem StandsAlone.of_same_types (stands : owner.StandsAlone forest) (next : Class)
    (sameScope : next.parts.scope = owner.parts.scope)
    (sameName : next.parts.name = owner.parts.name)
    (sameTypes : next.types = owner.types) (sameNested : next.nested = owner.nested) :
    next.StandsAlone forest := by
  rcases (isSettled_iff _ _).mp stands.settled with ⟨recorded, nestedSettled⟩
  constructor
  · rw [isSettled_iff, sameNested]
    refine ⟨⟨?_, ?_⟩, nestedSettled⟩
    · rw [sameScope, sameName, sameTypes]
      exact recorded.declares
    · rw [sameNested, memberLink, sameScope]
      exact recorded.inside
  · rw [sameScope]
    exact stands.outermost

theorem standsAlone_addMember (stands : owner.StandsAlone forest) (distinct : owner.scopes.Nodup)
    (member : Member) :
    ((owner.addMember member).run forest).1.StandsAlone
      ((owner.addMember member).run forest).2 := by
  rcases (isSettled_iff _ _).mp stands.settled with ⟨recorded, nestedSettled⟩
  cases member with
  | function content => exact stands.of_same_types (owner.addFunction content) rfl rfl rfl rfl
  | data content => exact stands.of_same_types (owner.addVariable content) rfl rfl rfl rfl
  | array content => exact stands.of_same_types (owner.addArray content) rfl rfl rfl rfl
  | enumeration content =>
      rw [scopes_eq, List.nodup_cons, List.mem_flatMap, not_exists] at distinct
      constructor
      · rw [isSettled_iff]
        constructor
        · refine recorded.addType content.name rfl rfl ?_ rfl ?_
          · exact mem_map_name_types_addEnumeration owner content forest
          · intro inner listed
            exact (Forest.parent_declareType _ _ _ _).trans (recorded.inside inner listed)
        · intro inner listed
          apply (nestedSettled inner listed).declareType
          intro owned
          exact distinct.1 inner ⟨listed, owned⟩
      · exact (Forest.parent_declareType _ _ _ _).trans stands.outermost

theorem node?_addMember_of_ne (member : Member) {scope : Id} (other : scope ≠ owner.parts.scope) :
    ((owner.addMember member).run forest).2.node? scope = forest.node? scope := by
  cases member with
  | enumeration content => exact Forest.node?_declareType_of_ne _ other
  | _ => rfl

theorem node?_addClass_of_ne {scope : Id} (other : scope ≠ owner.parts.scope)
    (otherInner : scope ≠ inner.parts.scope) :
    ((owner.addClass inner).run forest).2.node? scope = forest.node? scope :=
  (Forest.node?_attach_of_ne _ otherInner).trans (Forest.node?_declareType_of_ne _ other)

/-- Moving a class into another one leaves those classes settled that neither are the outer
one nor have the inner one inside. -/
theorem IsSettled.addClass {asked : Class} (settled : asked.IsSettled forest)
    (notOuter : owner.parts.scope ∉ asked.scopes)
    (notInside : inner.parts.scope ∉ asked.nested.flatMap scopes) :
    asked.IsSettled ((owner.addClass inner).run forest).2 :=
  (settled.declareType notOuter inner.parts.name).attach notInside owner.memberLink

/-- Moving a class into another one changes the link of its scope alone. -/
theorem parent_addClass {scope : Id} (other : scope ≠ inner.parts.scope) :
    ((owner.addClass inner).run forest).2.parent scope = forest.parent scope :=
  (Forest.parent_eq_of_node?_eq (Forest.node?_attach_of_ne _ other)).trans
    (Forest.parent_declareType _ _ _ _)

/-- A class that stands alone accepts another one. -/
theorem StandsAlone.parent_addClass_self (stands : owner.StandsAlone forest)
    (innerSettled : inner.IsSettled forest) (apart : inner.parts.scope ≠ owner.parts.scope) :
    ((owner.addClass inner).run forest).2.parent inner.parts.scope = owner.memberLink := by
  apply Forest.parent_attach
  · apply Forest.isAbove_eq_false _ _ apart
    · exact (Forest.isAttached_update _ _ _ _).trans (isAttached_of_isSettled stands.settled)
    · exact (Forest.parent_declareType _ _ _ _).trans stands.outermost
  · exact (Forest.isAttached_update _ _ _ _).trans (isAttached_of_isSettled innerSettled)

/-- A class that stands alone can be moved into another one that does. -/
theorem standsAlone_addClass (stands : owner.StandsAlone forest)
    (innerSettled : inner.IsSettled forest) (distinct : (owner.scopes ++ inner.scopes).Nodup) :
    ((owner.addClass inner).run forest).1.StandsAlone ((owner.addClass inner).run forest).2 := by
  rcases (isSettled_iff _ _).mp stands.settled with ⟨recorded, nestedSettled⟩
  rcases List.nodup_append.mp distinct with ⟨ownDistinct, innerDistinct, _⟩
  have apart := List.disjoint_of_nodup_append distinct
  rw [scopes_eq, List.nodup_cons] at ownDistinct innerDistinct
  have otherScope : inner.parts.scope ≠ owner.parts.scope := by
    intro same
    exact apart owner.scope_mem_scopes (same ▸ inner.scope_mem_scopes)
  have innerElsewhere : ∀ deeper ∈ owner.nested, inner.parts.scope ∉ deeper.scopes := by
    intro deeper listed owned
    apply apart _ inner.scope_mem_scopes
    rw [scopes_eq]
    exact List.mem_cons_of_mem _ (List.mem_flatMap.mpr ⟨deeper, listed, owned⟩)
  have nestedSame : ((owner.addClass inner).run forest).1.nested = owner.nested ++ [inner] := rfl
  constructor
  · rw [isSettled_iff, nestedSame, List.forall_mem_append, List.forall_mem_singleton]
    refine ⟨?_, ?_, ?_⟩
    · refine recorded.addType inner.parts.name rfl rfl ?_ ?_ ?_
      · exact mem_map_name_types_addClass owner inner forest
      · exact Forest.declared?_attach _ _ _ _
      · rw [nestedSame, List.forall_mem_append, List.forall_mem_singleton]
        constructor
        · intro deeper listed
          rw [parent_addClass]
          · exact recorded.inside deeper listed
          · intro same
            exact innerElsewhere deeper listed (same ▸ deeper.scope_mem_scopes)
        · exact stands.parent_addClass_self innerSettled otherScope
    · intro deeper listed
      apply (nestedSettled deeper listed).addClass
      · intro owned
        exact ownDistinct.1 (List.mem_flatMap.mpr ⟨deeper, listed, owned⟩)
      · intro inside
        apply innerElsewhere deeper listed
        rw [scopes_eq]
        exact List.mem_cons_of_mem _ inside
    · apply innerSettled.addClass
      · exact fun owned => apart owner.scope_mem_scopes owned
      · exact innerDistinct.1
  · exact (parent_addClass otherScope.symm).trans stands.outermost

end Class

/-! ## Programs -/

namespace Workspace

variable {workspace next : Workspace}

/-- The classes that own none of the touched scopes stand alone. -/
def UntouchedStandAlone (touched : List Id) (workspace : Workspace) : Prop :=
  ∀ owner ∈ workspace.classes, (∀ scope ∈ owner.scopes, scope ∉ touched) →
    owner.StandsAlone workspace.forest

variable {touched : List Id}

/-- Classes stand alone as before if a change leaves their scopes as they are. -/
theorem UntouchedStandAlone.frame {forest : Forest} {scopes : List Id} {others : List Class}
    (stand : workspace.UntouchedStandAlone touched)
    (known : ∀ other ∈ others, other ∈ workspace.classes)
    (same : ∀ other ∈ others, ∀ scope ∈ other.scopes, scope ∉ touched →
      forest.node? scope = workspace.forest.node? scope) :
    UntouchedStandAlone touched ⟨forest, scopes, others⟩ := by
  intro other listed untouched
  apply (stand other (known other listed) untouched).of_same
  intro scope owned
  exact same other listed scope owned (untouched scope owned)

theorem UntouchedStandAlone.cons {forest : Forest} {scopes : List Id} {owner : Class}
    {others : List Class}
    (own : (∀ scope ∈ owner.scopes, scope ∉ touched) → owner.StandsAlone forest)
    (rest : UntouchedStandAlone touched ⟨forest, scopes, others⟩) :
    UntouchedStandAlone touched ⟨forest, scopes, owner :: others⟩ :=
  List.forall_mem_cons.mpr ⟨own, rest⟩

theorem UntouchedStandAlone.perform (stand : workspace.UntouchedStandAlone touched)
    (sound : workspace.Sound) {operation : Operation}
    (spared : ∀ scope ∈ (Action.operate operation).touched, scope ∈ touched)
    (performed : workspace.perform operation = some next) : next.UntouchedStandAlone touched := by
  have alive : ∀ owner ∈ workspace.classes, ∀ scope ∈ owner.scopes,
      workspace.forest.isAttached (some scope) = true := fun owner listed =>
    ((Class.isKept_iff _ _).mp (sound.isKept listed)).2
  cases operation with
  | createScope name =>
      cases performed
      apply stand.frame fun _ => id
      intro owner listed scope owned _
      exact Forest.node?_create_of_isAttached name (alive owner listed scope owned)
  | createClass name =>
      cases performed
      apply UntouchedStandAlone.cons
      · intro _
        exact Class.standsAlone_create name _
      · apply stand.frame fun _ => id
        intro owner listed scope owned _
        exact Forest.node?_create_of_isAttached name (alive owner listed scope owned)
  | attach changed link =>
      cases perform_attach performed
      apply stand.frame fun _ => id
      rintro owner _ scope _ untouched
      apply Forest.node?_attach_of_ne
      rintro rfl
      exact untouched (spared scope List.mem_cons_self)
  | declareType changed type =>
      cases perform_declareType performed
      apply stand.frame fun _ => id
      rintro owner _ scope _ untouched
      apply Forest.node?_declareType_of_ne
      rintro rfl
      exact untouched (spared scope List.mem_cons_self)
  | addMember _ member =>
      obtain ⟨owner, others, permuted, _, rfl⟩ := perform_addMember performed
      obtain ⟨ownListed, othersListed⟩ := forall_mem_of_perm_cons (fun _ => id) permuted
      obtain ⟨ownDistinct, apart⟩ := sound.scopes_apart permuted
      apply UntouchedStandAlone.cons
      · intro untouched
        rw [scopes_addMember] at untouched
        exact Class.standsAlone_addMember (stand owner ownListed untouched) ownDistinct member
      · apply stand.frame othersListed
        rintro other listed scope owned _
        apply Class.node?_addMember_of_ne
        rintro rfl
        exact apart _ owner.scope_mem_scopes other listed owned
  | addClass _ _ =>
      obtain ⟨owner, inner, others, permuted, _, _, rfl⟩ := perform_addClass performed
      obtain ⟨ownListed, furtherListed⟩ := forall_mem_of_perm_cons (fun _ => id) permuted
      obtain ⟨innerListed, othersListed⟩ := List.forall_mem_cons.mp furtherListed
      obtain ⟨ownDistinct, apart⟩ := sound.scopes_apart permuted
      obtain ⟨innerDistinct, innerApart⟩ :=
        sound.scopes_apart (permuted.trans (.swap inner owner others))
      apply UntouchedStandAlone.cons
      · intro untouched
        rw [scopes_addClass, List.forall_mem_append] at untouched
        obtain ⟨ownUntouched, innerUntouched⟩ := untouched
        apply Class.standsAlone_addClass (stand owner ownListed ownUntouched)
          (stand inner innerListed innerUntouched).settled
        apply ownDistinct.append innerDistinct
        intro scope owned
        exact apart scope owned inner List.mem_cons_self
      · apply stand.frame othersListed
        rintro other listed scope owned _
        have behindOther := List.mem_cons_of_mem inner listed
        have behindInner := List.mem_cons_of_mem owner listed
        apply Class.node?_addClass_of_ne
        · rintro rfl
          exact apart _ owner.scope_mem_scopes other behindOther owned
        · rintro rfl
          exact innerApart _ inner.scope_mem_scopes other behindInner owned
  | dropScope dropped =>
      obtain ⟨isOwned, rfl⟩ := perform_dropScope performed
      apply stand.frame fun _ => id
      intro owner listed scope owned _
      rw [Forest.node?_drop, if_neg]
      rintro isDropped
      rw [List.mem_singleton.mp isDropped] at owned
      have apart := List.disjoint_of_nodup_append sound.accounts.distinct
      apply apart isOwned
      rw [scopesOfAll_eq_flatMap]
      exact List.mem_flatMap.mpr ⟨owner, listed, owned⟩
  | dropClass _ =>
      obtain ⟨owner, others, permuted, _, rfl⟩ := perform_dropClass performed
      have apart := sound.scopes_apart permuted
      apply stand.frame (forall_mem_of_perm_cons (fun _ => id) permuted).2
      intro other listed scope owned _
      rw [Forest.node?_drop, if_neg]
      intro isDropped
      exact apart.2 scope isDropped other listed owned

theorem UntouchedStandAlone.act (stand : workspace.UntouchedStandAlone touched)
    (sound : workspace.Sound) {action : Action} (spared : ∀ scope ∈ action.touched, scope ∈ touched)
    (acted : workspace.act action = some next) : next.UntouchedStandAlone touched := by
  cases action with
  | operate operation => exact stand.perform sound spared acted
  | setHead _ head =>
      obtain ⟨owner, others, permuted, _, rfl⟩ := act_setHead acted
      obtain ⟨ownStands, othersStand⟩ := forall_mem_of_perm_cons stand permuted
      apply UntouchedStandAlone.cons
      · intro untouched
        have stands : owner.StandsAlone workspace.forest := by
          apply ownStands
          cases owner
          exact untouched
        exact stands.of_same_types (owner.withHead head) rfl rfl rfl rfl
      · exact othersStand

/-- After a program, the classes stand alone whose scopes it has not touched by hand. -/
theorem untouchedStandAlone_follow {program : List Action}
    (followed : follow program {} = some workspace) :
    workspace.UntouchedStandAlone (program.flatMap Action.touched) := by
  have kept := follow_induction
    (fun workspace => workspace.Sound ∧
      workspace.UntouchedStandAlone (program.flatMap Action.touched))
    (fun action listed workspace next holds acted =>
      ⟨holds.1.act acted, holds.2.act holds.1
        (fun scope isTouched => List.mem_flatMap.mpr ⟨action, listed, isTouched⟩) acted⟩)
    {} workspace ⟨.empty, List.forall_mem_nil _⟩ followed
  exact kept.2

end Workspace

end CppModel
