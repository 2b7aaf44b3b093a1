/-!
# Scopes and the links between them

A scope is a named container: a class, or any other place that members can be
put into.  Elements do not own the scope they lie in; they hold a link to it,
and the scope holds a link to the scope it is nested in.  All scopes live in one
forest, which is a value: moving or dropping a scope gives another forest, and
every name is read off the forest at the time when it is needed.

A link may be detached, or may point to a scope that has been dropped.  A walk
along the links ends there.  Nesting a scope in itself or in a scope below it
is refused, so that no walk goes round in a circle, and the number of scopes
bounds the length of every walk.
-/

namespace CppModel

namespace Scope

/-- The identity of a scope.  A dropped scope's identity is not given out
again. -/
structure Id where
  index : Nat
  deriving DecidableEq, Repr

/-- A link to an enclosing scope, or `none` where there is none. -/
abbrev Link := Option Id

/-- What a forest knows about a scope. -/
structure Node where
  name : String
  /-- The scope that this one is nested in. -/
  parent : Link
  /-- The names of the types declared directly in this scope, in order. -/
  types : List String
  deriving DecidableEq, Repr

/-- All scopes, under their identities.  The entry of a dropped scope is
`none`. -/
structure Forest where
  nodes : Array (Option Node) := #[]
  deriving DecidableEq, Repr

namespace Forest

/-- The forest without scopes. -/
def empty : Forest := {}

instance : Inhabited Forest := ⟨empty⟩

/-- A scope that is alive. -/
def node? (forest : Forest) (scope : Id) : Option Node :=
  forest.nodes[scope.index]?.join

/-- The scope that a link points to, if it is alive. -/
def target? (forest : Forest) (link : Link) : Option (Id × Node) :=
  link.bind fun scope => (forest.node? scope).map (scope, ·)

/-- Whether a link points to a scope that is alive. -/
def isAttached (forest : Forest) (link : Link) : Bool :=
  (forest.target? link).isSome

/-- At most `limit` scopes on the walk from a link, innermost first. -/
def climb (forest : Forest) : Nat → Link → List (Id × Node)
  | 0, _ => []
  | limit + 1, link =>
      match forest.target? link with
      | none => []
      | some (scope, node) => (scope, node) :: forest.climb limit node.parent

/-- The scope that a link points to and all scopes around it, innermost
first. -/
def ancestors (forest : Forest) (link : Link) : List (Id × Node) :=
  forest.climb forest.nodes.size link

/-! ## Making, moving and dropping scopes -/

/-- Add a scope that is nested in no other one. -/
def create (forest : Forest) (name : String) : Id × Forest :=
  (⟨forest.nodes.size⟩, ⟨forest.nodes.push (some ⟨name, none, []⟩)⟩)

/-- Change a scope that is alive. -/
def update (forest : Forest) (scope : Id) (change : Node → Node) : Forest :=
  ⟨forest.nodes.modify scope.index (Option.map change)⟩

/-- Record a type declared directly in a scope. -/
def declareType (forest : Forest) (scope : Id) (type : String) : Forest :=
  forest.update scope fun node => { node with types := node.types ++ [type] }

/-- Whether nesting `scope` under `link` would close a circle. -/
def isAbove (forest : Forest) (scope : Id) (link : Link) : Bool :=
  (forest.ancestors link).any (·.1 == scope)

/-- Nest a scope under a link in place of the link it had.  A link at or below
the scope itself is refused: the answer is `false` and nothing changes. -/
def attach (forest : Forest) (scope : Id) (link : Link) : Bool × Forest :=
  if forest.isAbove scope link then (false, forest)
  else (true, forest.update scope fun node => { node with parent := link })

/-- Drop scopes.  Links to them are dead from then on. -/
def drop (forest : Forest) (scopes : List Id) : Forest :=
  scopes.foldl (fun forest scope => ⟨forest.nodes.modify scope.index fun _ => none⟩) forest

/-! ## Names -/

/-- The link of a scope to the one it is nested in. -/
def parent (forest : Forest) (scope : Id) : Link :=
  (forest.node? scope).bind (·.parent)

/-- The name of the scope that a link points to. -/
def name? (forest : Forest) (link : Link) : Option String :=
  (forest.target? link).map (·.2.name)

/-- The names of a link's scope and of all scopes around it, outermost first,
if the link points to a scope. -/
def path? (forest : Forest) (link : Link) : Option (List String) :=
  if forest.isAttached link then
    some ((forest.ancestors link).map (·.2.name)).reverse
  else none

/-- The names of the scopes around a scope, outermost first, and its own. -/
def scopePath (forest : Forest) (scope : Id) (name : String) : List String :=
  (forest.path? (forest.parent scope)).getD [] ++ [name]

/-- A name with every scope around it in front, if there is one. -/
def qualify? (forest : Forest) (link : Link) (name separator : String) : Option String :=
  (forest.path? link).map fun path => separator.intercalate (path ++ [name])

/-- The name of an element under a link: with every scope around it in front,
or bare if the link points to none. -/
def qualifiedName (forest : Forest) (link : Link) (name separator : String) : String :=
  (forest.qualify? link name separator).getD name

@[simp]
theorem target?_none (forest : Forest) : forest.target? none = none :=
  rfl

@[simp]
theorem ancestors_none (forest : Forest) : forest.ancestors none = [] := by
  unfold ancestors
  cases forest.nodes.size <;> simp [climb]

@[simp]
theorem qualifiedName_none (forest : Forest) (name separator : String) :
    forest.qualifiedName none name separator = name :=
  rfl

@[simp]
theorem climb_zero (forest : Forest) (link : Link) : forest.climb 0 link = [] :=
  rfl

theorem climb_succ (forest : Forest) (limit : Nat) (link : Link) :
    forest.climb (limit + 1) link =
      match forest.target? link with
      | none => []
      | some (scope, node) => (scope, node) :: forest.climb limit node.parent :=
  rfl

/-- Changing a scope changes no other one. -/
theorem node?_update (forest : Forest) (changed asked : Id) (change : Node → Node) :
    (forest.update changed change).node? asked =
      if asked = changed then (forest.node? asked).map change else forest.node? asked := by
  obtain ⟨changed⟩ := changed
  obtain ⟨asked⟩ := asked
  by_cases same : asked = changed
  · subst same
    simp only [update, node?, Array.getElem?_modify]
    cases forest.nodes[asked]? with
    | none => simp
    | some entry => simp
  · have other : changed ≠ asked := fun equal => same equal.symm
    simp [update, node?, Array.getElem?_modify, same, other]

/-- A new scope stands behind all others. -/
theorem node?_create (forest : Forest) (name : String) (asked : Id) :
    (forest.create name).2.node? asked =
      if asked = (forest.create name).1 then some ⟨name, none, []⟩ else forest.node? asked := by
  obtain ⟨asked⟩ := asked
  simp only [create, node?, Array.getElem?_push, Id.mk.injEq]
  by_cases same : asked = forest.nodes.size <;> simp [same]

/-- A refused attachment changes nothing. -/
theorem attach_of_isAbove {forest : Forest} {scope : Id} {link : Link}
    (above : forest.isAbove scope link = true) : forest.attach scope link = (false, forest) := by
  simp [attach, above]

end Forest

end Scope

end CppModel
