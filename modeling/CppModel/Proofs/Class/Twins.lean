import CppModel.Proofs.Class.Likeness
import CppModel.Proofs.Class.Lineage

/-!
# Classes from one configuration

Two classes that are built from the same configuration own different scopes, and may lie in
different forests.  Their trees have the same shape, and classes at the same place have the
same names and the same types.  If both stand alone, then the walks from two such classes
meet scopes that resemble each other, so the same is seen from their members.

The induction goes down the two trees at once, and carries the lineages along: what a member
sees are the scopes of the classes around it.
-/

namespace CppModel

open Config Scope

/-- What is related to the same list in two ways is related item by item. -/
theorem forall₂_of_shared {Shared First Second : Type} {shared : List Shared} {items : List First}
    {others : List Second} {related : Shared → First → Prop} {otherRelated : Shared → Second → Prop}
    {result : First → Second → Prop} (first : List.Forall₂ related shared items)
    (second : List.Forall₂ otherRelated shared others)
    (agree : ∀ source ∈ shared, ∀ item ∈ items, ∀ other ∈ others,
      related source item → otherRelated source other → result item other) :
    List.Forall₂ result items others := by
  induction first generalizing others with
  | nil =>
      cases second
      exact .nil
  | cons isRelated _ inductionHypothesis =>
      cases second with
      | cons isOther rest =>
          refine .cons ?_ (inductionHypothesis rest fun source isShared item listed => ?_)
          · exact agree _ List.mem_cons_self _ List.mem_cons_self _ List.mem_cons_self isRelated
              isOther
          · intro other otherListed
            exact agree source (List.mem_cons_of_mem _ isShared) item
              (List.mem_cons_of_mem _ listed) other (List.mem_cons_of_mem _ otherListed)

namespace Class

/-- The classes have the same name, and types of the same names in the same order. -/
structure NamedAlike (first second : Class) : Prop where
  name : first.parts.name = second.parts.name
  types : first.types.map (·.name) = second.types.map (·.name)

/-- Where classes are named alike, the scopes that are met resemble each other. -/
theorem resembles_of_namedAlike {classes others : List Class} {path otherPath : List (Id × Node)}
    (alike : List.Forall₂ NamedAlike classes others) (met : List.Forall₂ IsMetAs classes path)
    (otherMet : List.Forall₂ IsMetAs others otherPath) :
    List.Forall₂ (fun first second => first.2.Resembles second.2) path otherPath := by
  induction alike generalizing path otherPath with
  | nil =>
      cases met
      cases otherMet
      exact .nil
  | cons named _ inductionHypothesis =>
      cases met with
      | cons isMet rest =>
          cases otherMet with
          | cons otherIsMet otherRest =>
              refine .cons ⟨?_, fun type => ?_⟩ (inductionHypothesis rest otherRest)
              · rw [isMet.name, otherIsMet.name, named.name]
              · rw [isMet.types, otherIsMet.types, named.types]

variable {forest other : Forest} {root otherRoot first second : Class}
  {outer otherOuter : List Class}

/-- From the members of two classes the same is seen, if the classes around them are named
alike. -/
theorem StandsAlone.seesAlike (stands : root.StandsAlone forest)
    (otherStands : otherRoot.StandsAlone other) (lineage : root.Lineage (first :: outer))
    (otherLineage : otherRoot.Lineage (second :: otherOuter))
    (alike : List.Forall₂ NamedAlike (first :: outer) (second :: otherOuter)) :
    forest.SeesAlike first.memberLink other second.memberLink := by
  rcases stands.exists_walk lineage with ⟨path, walk, met⟩
  rcases otherStands.exists_walk otherLineage with ⟨otherPath, otherWalk, otherMet⟩
  rw [Forest.SeesAlike, walk.ancestors_eq, otherWalk.ancestors_eq]
  exact resembles_of_namedAlike alike met otherMet

/-! ## What a configuration says about the names -/

theorem BuiltFrom.name_eq {config : ClassConfig} {owner : Class} (built : BuiltFrom config owner) :
    owner.parts.name = config.options.name := by
  cases built with
  | intro options scope inside => rfl

theorem BuiltFrom.map_name_types {config : ClassConfig} {owner : Class}
    (built : BuiltFrom config owner) :
    owner.types.map (·.name) =
      config.options.enums.map (·.name) ++ config.classes.map (·.options.name) := by
  cases built with
  | @intro options scope classes nested inside =>
      have enumerations : (ClassParts.ofOptions scope options).enumerations.map (·.name) =
          options.enums.map (·.name) := by
        rw [ClassParts.ofOptions, List.map_map, List.map_map]
        rfl
      have inner : classes.map (·.options.name) = nested.map (·.parts.name) :=
        map_eq_of_forall₂ inside fun _ _ innerBuilt => innerBuilt.name_eq.symm
      rw [types, List.map_append, List.map_map, List.map_map, inner, ← enumerations]
      rfl

theorem BuiltFrom.namedAlike {config : ClassConfig} (built : BuiltFrom config first)
    (otherBuilt : BuiltFrom config second) : first.NamedAlike second where
  name := built.name_eq.trans otherBuilt.name_eq.symm
  types := built.map_name_types.trans otherBuilt.map_name_types.symm

/-! ## Twins -/

theorem resembles_ofOptions {options : ClassOptions} {scope otherScope : Id}
    (alike : forest.SeesAlike (some scope) other (some otherScope)) :
    (ClassParts.ofOptions scope options).Resembles forest other
      (ClassParts.ofOptions otherScope options) := by
  have linked {Item : Type} (link : Item → Link) (withLink : Link → Item → Item)
      (put : ∀ target item, link (withLink target item) = target)
      (again : ∀ target first item, withLink target (withLink first item) = withLink target item)
      (items : List Item) :
      List.Forall₂ (Relinked link withLink forest other) (items.map (withLink (some scope)))
        (items.map (withLink (some otherScope))) := by
    rw [List.forall₂_map_left_iff, List.forall₂_map_right_iff]
    exact List.forall₂_same.mpr fun item _ => .of_seesAlike alike put again item
  constructor
  case enumerations =>
    exact linked Enumeration.link (fun link enumeration => { enumeration with link := link })
      (fun _ _ => rfl) (fun _ _ _ => rfl) _
  case dataMembers =>
    exact linked Variable.link (fun link data => { data with link := link })
      (fun _ _ => rfl) (fun _ _ _ => rfl) _
  case arrays =>
    exact linked ArrayVariable.link (fun link array => { array with link := link })
      (fun _ _ => rfl) (fun _ _ _ => rfl) _
  case functions =>
    exact linked _ _ MemberFunction.link_withLink (fun _ _ function => by cases function <;> rfl) _
  all_goals rfl

/-- Classes that are built from the same configuration resemble each other, wherever they
lie in classes that are named alike and stand alone. -/
theorem BuiltFrom.resembles {config : ClassConfig} (built : BuiltFrom config first)
    (otherBuilt : BuiltFrom config second) (stands : root.StandsAlone forest)
    (otherStands : otherRoot.StandsAlone other) (lineage : root.Lineage (first :: outer))
    (otherLineage : otherRoot.Lineage (second :: otherOuter))
    (around : List.Forall₂ NamedAlike outer otherOuter) : first.Resembles forest other second := by
  induction first using induction_on generalizing second config outer otherOuter with
  | step parts nested inductionHypothesis =>
      have alike := List.Forall₂.cons (built.namedAlike otherBuilt) around
      have sees := stands.seesAlike otherStands lineage otherLineage alike
      cases built with
      | @intro options scope classes _ inside =>
          cases otherBuilt with
          | @intro _ otherScope _ otherNested otherInside =>
              refine .intro (resembles_ofOptions sees) (forall₂_of_shared inside otherInside ?_)
              intro _ _ inner listed otherInner otherListed innerBuilt otherInnerBuilt
              exact inductionHypothesis inner listed innerBuilt otherInnerBuilt
                (lineage.inside listed) (otherLineage.inside otherListed) alike

/-- Twins: two classes from one configuration that both stand alone. -/
theorem BuiltFrom.twins_resemble {config : ClassConfig} (built : BuiltFrom config first)
    (otherBuilt : BuiltFrom config second) (stands : first.StandsAlone forest)
    (otherStands : second.StandsAlone other) : first.Resembles forest other second :=
  built.resembles otherBuilt stands otherStands .root .root .nil

end Class

end CppModel
