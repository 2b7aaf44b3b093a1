import CppModel.Proofs.Lists.Related
import CppModel.Proofs.Scope.Forest
import CppModel.Scope.TypeName

/-!
# What is seen from a link

Names and types are looked up on the walk from a link.  Of the scopes that are met, only
their names count and which types they declare; neither their identities are read nor the
order in which a scope has declared its types.  So two links, possibly in two forests, from
which the same is seen give the same names to elements and resolve types in the same way.
-/

namespace CppModel.Scope

/-- The scopes have the same name and declare the same types. -/
structure Node.Resembles (first second : Node) : Prop where
  name : first.name = second.name
  types : ∀ type, type ∈ first.types ↔ type ∈ second.types

namespace Forest

/-- The scopes on the way out from the two links resemble each other. -/
def SeesAlike (forest : Forest) (link : Link) (other : Forest) (otherLink : Link) : Prop :=
  List.Forall₂ (fun first second => first.2.Resembles second.2) (forest.ancestors link)
    (other.ancestors otherLink)

theorem isAttached_eq (forest : Forest) (link : Link) :
    forest.isAttached link = !(forest.ancestors link).isEmpty := by
  rw [isAttached]
  cases met : forest.target? link with
  | none =>
      rw [ancestors]
      cases forest.nodes.size with
      | zero => rfl
      | succ limit => rw [climb_succ, met]; rfl
  | some found =>
      obtain ⟨scope, node⟩ := found
      have inside := index_lt_of_node? (target?_eq_some_iff.mp met).2
      obtain ⟨limit, size⟩ :=
        Nat.exists_eq_succ_of_ne_zero (Nat.ne_of_gt (Nat.zero_lt_of_lt inside))
      rw [ancestors, size, Nat.succ_eq_add_one, climb_succ, met]
      rfl

theorem map_name_eq {met others : List (Id × Node)}
    (alike : List.Forall₂ (fun first second => first.2.Resembles second.2) met others) :
    met.map (·.2.name) = others.map (·.2.name) := by
  induction alike with
  | nil => rfl
  | cons resembles _ inductionHypothesis =>
      rw [List.map_cons, List.map_cons, resembles.name, inductionHypothesis]

namespace SeesAlike

variable {forest other : Forest} {link otherLink : Link}
  (alike : forest.SeesAlike link other otherLink)

include alike

theorem isAttached_eq : forest.isAttached link = other.isAttached otherLink := by
  rw [Forest.isAttached_eq, Forest.isAttached_eq]
  cases met : forest.ancestors link with
  | nil =>
      rw [SeesAlike, met, List.forall₂_nil_left_iff] at alike
      rw [alike]
  | cons first rest =>
      rw [SeesAlike, met, List.forall₂_cons_left_iff] at alike
      rcases alike with ⟨second, others, _, _, otherMet⟩
      rw [otherMet]
      rfl

theorem path?_eq : forest.path? link = other.path? otherLink := by
  rw [path?, path?, alike.isAttached_eq, map_name_eq alike]

/-- Elements under the two links have the same full names. -/
theorem qualifiedName_eq (name separator : String) :
    forest.qualifiedName link name separator = other.qualifiedName otherLink name separator := by
  rw [qualifiedName, qualifiedName, qualify?, qualify?, alike.path?_eq]

/-- Types under the two links are resolved in the same way. -/
theorem resolveType_eq (type separator : String) :
    forest.resolveType link type separator = other.resolveType otherLink type separator := by
  have declaring : List.Forall₂ (fun first second => first.2.Resembles second.2)
      (forest.declaring link (TypeName.ofString type).word)
      (other.declaring otherLink (TypeName.ofString type).word) := by
    apply forall₂_dropWhile alike
    intro first second resembles
    simp [resembles.types]
  rw [resolveType, resolveType]
  by_cases isEmpty : (TypeName.ofString type).word.isEmpty
  · rw [if_pos isEmpty, if_pos isEmpty]
  · rw [if_neg isEmpty, if_neg isEmpty]
    generalize forest.declaring link (TypeName.ofString type).word = scopes at declaring ⊢
    generalize other.declaring otherLink (TypeName.ofString type).word = otherScopes
      at declaring ⊢
    have names := map_name_eq declaring
    cases declaring with
    | nil => rfl
    | cons _ _ => simp only [names]

end SeesAlike

end Forest

end CppModel.Scope
