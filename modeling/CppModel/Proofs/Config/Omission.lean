import CppModel.Proofs.Config.Strays
import CppModel.Proofs.Lists.Related
import Mathlib.Logic.Relation

/-!
# Flags that are left out

A flag that is false need not be written.  Wherever the table of a class, or the list in its
place, spells out that a constructor is not `static`, say, this may be left out, and what is
left is another spelling of the same class.

Leaving out is done in steps.  One step takes one flag from one constructor, in the class or
in a class inside it, and exchanges the records on the way to it.
-/

namespace CppModel.Config

open Toml (Value Table)

/-! ## Records -/

/-- The second record is the first one with another value under a key.  A list has its values
under the names of the fields, in order. -/
inductive Exchanges (names : List String) (key : String) (old new : Value) : Value → Value → Prop
  | table (before after : Table) :
      Exchanges names key old new (.table (before ++ (key, old) :: after))
        (.table (before ++ (key, new) :: after))
  | list {before : List Value} (after : List Value) (named : names[before.length]? = some key) :
      Exchanges names key old new (.list (before ++ old :: after)) (.list (before ++ new :: after))

/-- The second record is the first one without the value under a key, which is the last one
if the record is a list. -/
inductive Omits (names : List String) (key : String) (old : Value) : Value → Value → Prop
  | table (before after : Table) :
      Omits names key old (.table (before ++ (key, old) :: after)) (.table (before ++ after))
  | list {before : List Value} (named : names[before.length]? = some key) :
      Omits names key old (.list (before ++ [old])) (.list before)

/-- A part has the name that stands behind as many names as there are parts in front of it. -/
theorem name_of_getElem? {front back : List Part} {part : Part} {key : String} {count : Nat}
    (length : front.length = count)
    (named : ((front ++ part :: back).map (·.name))[count]? = some key) : part.name = key := by
  subst length
  simpa using named

namespace SpellsRecord

variable {parts : List Part} {key : String} {old new value other : Value}

/-- A record spells the same with another value for an option, if this value spells it too. -/
theorem of_exchanges (spelled : SpellsRecord parts value)
    (exchanged : Exchanges (parts.map (·.name)) key old new value other)
    (serves : ∀ part ∈ parts, part.name = key → part.IsSpelled old → part.IsSpelled new) :
    SpellsRecord parts other := by
  cases exchanged with
  | table before after =>
      cases spelled with
      | table distinct isSpelled complete =>
          have sameKeys : (before ++ (key, old) :: after).map (·.1) =
              (before ++ (key, new) :: after).map (·.1) := by
            rw [List.map_append, List.map_append, List.map_cons, List.map_cons]
          rw [sameKeys] at distinct complete
          refine .table distinct ?_ complete
          rw [List.forall_mem_append, List.forall_mem_cons] at isSpelled ⊢
          rcases isSpelled with ⟨front, ⟨part, isPart, named, oldSpelled⟩, back⟩
          exact ⟨front, ⟨part, isPart, named, serves part isPart named oldSpelled⟩, back⟩
  | list after named =>
      cases spelled with
      | list isSpelled droppable =>
          rcases split_of_forall₂ isSpelled with ⟨front, part, back, rfl, before, here, behind⟩
          rw [List.append_assoc, List.cons_append] at named serves
          have isNamed := name_of_getElem? before.length_eq named
          have newSpelled := serves part (by simp) isNamed here
          exact .list (List.rel_append before (.cons newSpelled behind)) droppable

/-- A record spells the same without the value for an option, if this value spells what the
option is without it. -/
theorem of_omits (spelled : SpellsRecord parts value) (distinctNames : (parts.map (·.name)).Nodup)
    (omits : Omits (parts.map (·.name)) key old value other)
    (idle : ∀ part ∈ parts, part.name = key → part.IsSpelled old →
      part.IsOmittable ∧ part.IsDroppable) : SpellsRecord parts other := by
  cases omits with
  | table before after =>
      cases spelled with
      | table distinct isSpelled complete =>
          rw [List.forall_mem_append, List.forall_mem_cons] at isSpelled
          rcases isSpelled with ⟨front, ⟨given, isGiven, givenNamed, oldSpelled⟩, back⟩
          have kept : (before ++ after).Sublist (before ++ (key, old) :: after) :=
            (List.sublist_cons_self _ _).append_left before
          refine .table (distinct.sublist (kept.map _)) ?_ ?_
          · rw [List.forall_mem_append]
            exact ⟨front, back⟩
          · intro part isPart
            by_cases isNamed : part.name = key
            · have sameName := isNamed.trans givenNamed.symm
              have same : part = given :=
                List.inj_on_of_nodup_map distinctNames isPart isGiven sameName
              subst same
              exact .inr (idle part isPart isNamed oldSpelled).1
            · apply (complete part isPart).imp_left
              simp [isNamed]
  | list named =>
      cases spelled with
      | list isSpelled droppable =>
          rcases split_of_forall₂ isSpelled with ⟨front, part, back, rfl, before, here, behind⟩
          cases behind
          rw [List.append_assoc, List.singleton_append] at named idle ⊢
          have isNamed := name_of_getElem? before.length_eq named
          have partDroppable := (idle part (by simp) isNamed here).2
          exact .list before (List.forall_mem_cons.mpr ⟨partDroppable, droppable⟩)

end SpellsRecord

theorem SpellsList.of_exchanges {Item : Type} {spells : Item → Value → Prop} {items : List Item}
    {before after : List Value} {old new : Value}
    (spelled : SpellsList spells items (.list (before ++ old :: after)))
    (serves : ∀ item, spells item old → spells item new) :
    SpellsList spells items (.list (before ++ new :: after)) := by
  rcases spelled with ⟨_, ⟨⟩, isSpelled⟩
  rcases split_of_forall₂ isSpelled with ⟨front, item, back, rfl, inFront, here, behind⟩
  exact ⟨_, rfl, List.rel_append inFront (.cons (serves item here) behind)⟩

/-! ## Constructors -/

/-- The names of the flags of a member function. -/
def flagNames : List String :=
  (modifierParts {}).map (·.name)

namespace ConstructorConfig

/-- The names of the fields of a constructor. -/
def names : List String :=
  (default : ConstructorConfig).parts.map (·.name)

theorem map_name_parts (config : ConstructorConfig) : config.parts.map (·.name) = names :=
  rfl

/-- A flag that is spelled as false is one that may be left out. -/
theorem idle_of_isSpelled_false (config : ConstructorConfig) :
    ∀ part ∈ config.parts, part.name ∈ flagNames → part.IsSpelled (.boolean false) →
      part.IsOmittable ∧ part.IsDroppable := by
  simp [parts, modifierParts, flagNames, Part.required, Part.optional, Part.defaulted, SpellsFlag]

theorem Spells.of_omits {config : ConstructorConfig} {flag : String} {value other : Value}
    (spelled : config.Spells value) (isFlag : flag ∈ flagNames)
    (omits : Omits names flag (.boolean false) value other) : config.Spells other := by
  apply SpellsRecord.of_omits spelled
  · rw [map_name_parts]
    decide
  · exact omits
  · rintro part isPart rfl
    exact config.idle_of_isSpelled_false part isPart isFlag

end ConstructorConfig

/-! ## Classes -/

namespace ClassConfig

/-- The second class is the first one, where one constructor, in the class or in a class
inside it, has lost a flag that was false. -/
inductive LosesFlag : Value → Value → Prop
  | here {value other constructor shorter : Value} {before after : List Value} {flag : String}
      (isFlag : flag ∈ flagNames)
      (omits : Omits ConstructorConfig.names flag (.boolean false) constructor shorter)
      (exchanged : Exchanges names "constructors" (.list (before ++ constructor :: after))
        (.list (before ++ shorter :: after)) value other) : LosesFlag value other
  | inside {value other inner shorter : Value} {before after : List Value}
      (loses : LosesFlag inner shorter)
      (exchanged : Exchanges names "classes" (.list (before ++ inner :: after))
        (.list (before ++ shorter :: after)) value other) : LosesFlag value other

theorem isSpelled_constructors (config : ClassConfig) :
    ∀ part ∈ config.parts, part.name = "constructors" →
      part.IsSpelled = SpellsList ConstructorConfig.Spells config.options.constructors := by
  simp [parts, partsWith, Part.required, Part.optional, Part.defaulted]

theorem isSpelled_classes (config : ClassConfig) :
    ∀ part ∈ config.parts, part.name = "classes" →
      part.IsSpelled = SpellsList Spells config.classes := by
  simp [parts, partsWith, Part.required, Part.optional, Part.defaulted]

/-- A class is still spelled when a constructor in it has lost a flag. -/
theorem Spells.of_losesFlag {config : ClassConfig} {value other : Value}
    (spelled : config.Spells value) (loses : LosesFlag value other) : config.Spells other := by
  induction loses generalizing config with
  | here isFlag omits exchanged =>
      rw [spells_iff] at spelled ⊢
      apply spelled.of_exchanges exchanged
      intro part isPart named listed
      rw [config.isSpelled_constructors part isPart named] at listed ⊢
      exact listed.of_exchanges fun _ isSpelled =>
        ConstructorConfig.Spells.of_omits isSpelled isFlag omits
  | inside _ exchanged inductionHypothesis =>
      rw [spells_iff] at spelled ⊢
      apply spelled.of_exchanges exchanged
      intro part isPart named listed
      rw [config.isSpelled_classes part isPart named] at listed ⊢
      exact listed.of_exchanges fun _ isSpelled => inductionHypothesis isSpelled

/-- A class is still spelled when constructors in it have lost any number of flags. -/
theorem Spells.of_losesFlags {config : ClassConfig} {value other : Value}
    (spelled : config.Spells value) (loses : Relation.ReflTransGen LosesFlag value other) :
    config.Spells other := by
  induction loses with
  | refl => exact spelled
  | tail _ step inductionHypothesis => exact inductionHypothesis.of_losesFlag step

end ClassConfig

end CppModel.Config
