import CppModel.Proofs.Scope.Resolution
import CppModel.Element.Constructor

/-!
# Properties of texts that are put together

Lines and headers are put together from names, types and values, with words and signs between
them.  A property that all words and signs have, and that passes from the parts of a text to the
whole, holds of a name under the scopes around it if it holds of the name and of those of the
scopes, and likewise of a type.

Braces and line feeds are not among the words and signs.  A brace comes in only together with
the one that closes it.
-/

namespace CppModel

open Scope

/-- Neither a brace nor a line feed. -/
def Text.isPlain (character : Char) : Bool :=
  character != '\x7b' && character != '\x7d' && character != '\n'

/-- A text without braces and line feeds. -/
def IsPlain (text : String) : Prop :=
  ∀ character ∈ text.toList, Text.isPlain character = true

instance (text : String) : Decidable (IsPlain text) :=
  decidable_of_iff (text.toList.all Text.isPlain = true) List.all_eq_true

/-- A property of texts that plain texts have and that passes from the parts to the whole, and
from the whole to what stands behind a plain text. -/
structure IsCompositional (holds : String → Prop) : Prop where
  plain {text : String} : IsPlain text → holds text
  append {first second : String} : holds first → holds second → holds (first ++ second)
  inBraces {text : String} : holds text → holds ("\x7b" ++ text ++ "\x7d")
  behind {front rest : String} : IsPlain front → holds (front ++ rest) → holds rest

/-- The names of the scopes around a link. -/
def Scope.Forest.namesAround (forest : Forest) (link : Link) : List String :=
  (forest.ancestors link).map (·.2.name)

theorem Scope.Forest.namesAround_declaring (forest : Forest) (link : Link) (word : String) :
    ∀ scope ∈ forest.declaring link word, scope.2.name ∈ forest.namesAround link :=
  fun _ listed => List.mem_map_of_mem ((List.dropWhile_sublist _).mem listed)

/-! ## Plain texts -/

theorem isPlain_word (modifier : Modifier) : IsPlain modifier.word := by
  cases modifier <;> decide

/-- Numbers consist of digits. -/
theorem isPlain_toString (number : Nat) : IsPlain (toString number) := by
  intro character listed
  have isDigit : character.isDigit = true := by
    rw [Nat.toString_eq_repr, Nat.toList_repr] at listed
    exact Nat.isDigit_of_mem_toDigits (by decide) (by decide) listed
  have notPlain : ∀ other : Char, other.isDigit = false → character ≠ other := by
    rintro other notDigit rfl
    exact Bool.false_ne_true (notDigit.symm.trans isDigit)
  simp [Text.isPlain, notPlain '\x7b' rfl, notPlain '\x7d' rfl, notPlain '\n' rfl]

namespace TypeName.IsSplitOf

variable {split : TypeName} {type : String}

theorem isPlain_constness (isSplit : split.IsSplitOf type) : IsPlain split.constness := by
  rcases isSplit.constness with isConst | ⟨isEmpty, _⟩
  · rw [isConst]
    decide
  · rw [isEmpty]
    exact List.forall_mem_nil _

theorem isPlain_word (isSplit : split.IsSplitOf type) : IsPlain split.word := by
  intro character listed
  have notPlain : ∀ other, Text.isWordChar other = false → character ≠ other := by
    rintro other notWord rfl
    exact Bool.false_ne_true (notWord.symm.trans (isSplit.word character listed))
  simp [Text.isPlain, notPlain '\x7b' (by decide +kernel), notPlain '\x7d' (by decide +kernel),
    notPlain '\n' (by decide +kernel)]

end TypeName.IsSplitOf

/-! ## Texts with the property -/

namespace IsCompositional

variable {holds : String → Prop} (compositional : IsCompositional holds)

include compositional

theorem empty : holds "" :=
  compositional.plain (List.forall_mem_nil _)

theorem semicolon {text : String} (holdsOf : holds text) : holds (text ++ ";") :=
  compositional.append holdsOf (compositional.plain (by decide))

theorem getD {text : Option String} (holdsOf : ∀ given ∈ text, holds given) :
    holds (text.getD "") := by
  cases text with
  | none => exact compositional.empty
  | some given => exact holdsOf given rfl

/-- Texts with a plain one between any two. -/
theorem intercalate {separator : String} {texts : List String} (isPlain : IsPlain separator)
    (holdsOf : ∀ text ∈ texts, holds text) : holds (separator.intercalate texts) := by
  induction texts with
  | nil => exact compositional.empty
  | cons first rest inductionHypothesis =>
      obtain ⟨ofFirst, ofRest⟩ := List.forall_mem_cons.mp holdsOf
      cases rest with
      | nil => simpa using ofFirst
      | cons second others =>
          rw [String.intercalate_cons_cons]
          have separated := compositional.append ofFirst (compositional.plain isPlain)
          exact compositional.append separated (inductionHypothesis ofRest)

theorem keyword (present : Bool) (modifier : Modifier) :
    holds (Declarator.keyword present modifier.word) := by
  cases present with
  | false => exact compositional.empty
  | true => exact compositional.plain (isPlain_word modifier)

theorem join {parts : List String} (holdsOf : ∀ part ∈ parts, holds part) :
    holds (Declarator.join parts) :=
  compositional.intercalate (by decide) fun part kept => holdsOf part (List.mem_filter.mp kept).1

theorem signature {name : String} {arguments : List String} (named : holds name)
    (holdsOf : ∀ argument ∈ arguments, holds argument) :
    holds (Declarator.signature name arguments) := by
  have opening := compositional.append named (compositional.plain (by decide : IsPlain "("))
  have list := compositional.append opening
    (compositional.intercalate (by decide : IsPlain ", ") holdsOf)
  exact compositional.append list (compositional.plain (by decide))

section Scopes

variable {forest : Forest} {link : Link}

theorem qualifiedName {name : String} (named : holds name)
    (around : ∀ outer ∈ forest.namesAround link, holds outer) :
    holds (forest.qualifiedName link name scopeSeparator) := by
  rw [Forest.qualifiedName, Forest.qualify?, Forest.path?]
  split
  · apply compositional.intercalate (by decide)
    rw [List.forall_mem_append, List.forall_mem_singleton]
    exact ⟨fun outer listed => around outer (List.mem_reverse.mp listed), named⟩
  · exact named

/-- The scopes that a type is looked up in are those around the link. -/
theorem resolveType {type : String} (typed : holds type)
    (around : ∀ outer ∈ forest.namesAround link, holds outer) :
    holds (forest.resolveType link type scopeSeparator) := by
  have isSplit := TypeName.isSplitOf_ofString type
  rw [Forest.resolveType]
  generalize TypeName.ofString type = split at isSplit
  have found := forest.namesAround_declaring link split.word
  by_cases noWord : split.word.isEmpty
  · simpa [noWord] using typed
  · simp only [noWord]
    cases declared : forest.declaring link split.word with
    | nil => exact typed
    | cons scope outer =>
        rw [declared] at found
        have names : ∀ name ∈ ((scope :: outer).map (·.2.name)).reverse ++ [split.word],
            holds name := by
          rw [List.forall_mem_append, List.forall_mem_singleton]
          constructor
          · intro name listed
            obtain ⟨other, inScopes, rfl⟩ := List.mem_map.mp (List.mem_reverse.mp listed)
            exact around _ (found other inScopes)
          · exact compositional.plain isSplit.isPlain_word
        have qualified := compositional.intercalate (by decide : IsPlain scopeSeparator) names
        have constness := compositional.plain isSplit.isPlain_constness
        have rest : holds split.rest := by
          rw [← isSplit.whole, String.append_assoc] at typed
          exact compositional.behind isSplit.isPlain_word
            (compositional.behind isSplit.isPlain_constness typed)
        exact compositional.append (compositional.append constness qualified) rest

end Scopes

end IsCompositional

end CppModel
