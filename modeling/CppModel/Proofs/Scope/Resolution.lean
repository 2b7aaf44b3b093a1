import CppModel.Proofs.Scope.Names
import CppModel.Scope.TypeName

/-!
# What a type text resolves to

A type text has one split into its constness, its leading word and its rest.  It is told
by what the three parts are, without saying how they are found.

The word is looked up on the walk from a link.  The first scope on the walk that declares
the word gives the names in front of it: those of this scope and of all scopes further
out.  Whether scopes further out declare the same word makes no difference.
-/

namespace CppModel

namespace TypeName

/-- The parts make up the text: `const` and a space if the text begins so, then as many
word characters as there are, then the rest. -/
structure IsSplitOf (split : TypeName) (type : String) : Prop where
  whole : split.constness ++ split.word ++ split.rest = type
  constness : split.constness = "const " ∨
    split.constness = "" ∧ ¬ "const ".toList <+: type.toList
  word : ∀ character ∈ split.word.toList, Text.isWordChar character = true
  rest : ∀ character, split.rest.toList.head? = some character →
    Text.isWordChar character = false

theorem isSplitOf_ofChars {constness characters : List Char} {type : String}
    (whole : constness ++ characters = type.toList)
    (known : String.ofList constness = "const " ∨
      String.ofList constness = "" ∧ ¬ "const ".toList <+: type.toList) :
    (ofChars constness characters).IsSplitOf type where
  whole := by
    apply String.toList_injective
    rw [ofChars, String.toList_append, String.toList_append, String.toList_ofList,
      String.toList_ofList, String.toList_ofList, List.append_assoc,
      List.takeWhile_append_dropWhile, whole]
  constness := known
  word := by
    intro character listed
    rw [ofChars, String.toList_ofList] at listed
    exact List.mem_takeWhile_imp listed
  rest := by
    intro character isFirst
    rw [ofChars, String.toList_ofList] at isFirst
    have stopped := List.head?_dropWhile_not Text.isWordChar characters
    rw [isFirst] at stopped
    exact stopped

/-- Every type text is split so. -/
theorem isSplitOf_ofString (type : String) : (ofString type).IsSplitOf type := by
  rw [ofString]
  by_cases isConst : constMark <+: type.toList
  · rw [if_pos (List.isPrefixOf_iff_prefix.mpr isConst)]
    apply isSplitOf_ofChars
    · exact List.prefix_iff_eq_append.mp isConst
    · exact .inl String.ofList_toList
  · rw [if_neg (fun found => isConst (List.isPrefixOf_iff_prefix.mp found))]
    exact isSplitOf_ofChars rfl (.inr ⟨rfl, isConst⟩)

namespace IsSplitOf

variable {split : TypeName} {type : String}

theorem toList_whole (isSplit : split.IsSplitOf type) :
    type.toList = split.constness.toList ++ (split.word.toList ++ split.rest.toList) := by
  rw [← isSplit.whole, String.toList_append, String.toList_append, List.append_assoc]

/-- A run of word characters that no word character follows is as long as it can be. -/
theorem eq_ofChars (isSplit : split.IsSplitOf type) :
    split = ofChars split.constness.toList (split.word.toList ++ split.rest.toList) := by
  have run : (split.word.toList ++ split.rest.toList).takeWhile Text.isWordChar =
      split.word.toList := by
    rw [List.takeWhile_append_of_pos isSplit.word]
    cases characters : split.rest.toList with
    | nil => rw [List.takeWhile_nil, List.append_nil]
    | cons first others =>
        have stops := isSplit.rest first (by rw [characters]; rfl)
        rw [List.takeWhile_cons_of_neg (Bool.not_eq_true _ ▸ stops), List.append_nil]
  have remains : (split.word.toList ++ split.rest.toList).dropWhile Text.isWordChar =
      split.rest.toList := by
    have together := List.takeWhile_append_dropWhile (p := Text.isWordChar)
      (l := split.word.toList ++ split.rest.toList)
    rw [run] at together
    exact List.append_cancel_left together
  rw [ofChars, run, remains, String.ofList_toList, String.ofList_toList, String.ofList_toList]

/-- The split of a type text is determined by what its parts are. -/
theorem eq_ofString (isSplit : split.IsSplitOf type) : split = ofString type := by
  have whole := isSplit.toList_whole
  rcases isSplit.constness with isConst | ⟨notConst, noMark⟩
  · rw [isConst] at whole
    have marked : constMark <+: type.toList := by
      rw [whole]
      exact List.prefix_append _ _
    have behind : type.toList.drop constMark.length = split.word.toList ++ split.rest.toList := by
      rw [whole]
      exact List.drop_left
    rw [ofString, if_pos (List.isPrefixOf_iff_prefix.mpr marked), behind]
    refine isSplit.eq_ofChars.trans ?_
    rw [isConst]
    rfl
  · have notMarked : ¬ constMark.isPrefixOf type.toList = true :=
      fun found => noMark (List.isPrefixOf_iff_prefix.mp found)
    rw [notConst] at whole
    rw [ofString, if_neg notMarked, whole]
    refine isSplit.eq_ofChars.trans ?_
    rw [notConst]
    rfl

end IsSplitOf

end TypeName

namespace Scope.Forest

variable {forest : Forest} {link : Link} {type : String} {split : TypeName}

/-- The scopes that are passed on the way to the first one that declares the word are left
out. -/
theorem Walk.declaring_eq {below above : List (Id × Node)} {word : String}
    (walk : forest.Walk link (below ++ above))
    (undeclared : ∀ met ∈ below, word ∉ met.2.types)
    (declared : ∀ met, above.head? = some met → word ∈ met.2.types) :
    forest.declaring link word = above := by
  have passed : ∀ met ∈ below, (!met.2.types.contains word) = true := by
    intro met listed
    simpa using undeclared met listed
  rw [declaring, walk.ancestors_eq, List.dropWhile_append_of_pos passed]
  cases above with
  | nil => rfl
  | cons first others =>
      apply List.dropWhile_cons_of_neg
      simpa using declared first rfl

/-- The innermost scope that declares the word gives the names in front of it. -/
theorem Walk.resolveType_of_declared {below above : List (Id × Node)} {scope : Id} {node : Node}
    (walk : forest.Walk link (below ++ (scope, node) :: above)) (isSplit : split.IsSplitOf type)
    (isWord : split.word ≠ "") (declared : split.word ∈ node.types)
    (undeclared : ∀ met ∈ below, split.word ∉ met.2.types) (separator : String) :
    forest.resolveType link type separator =
      split.withWord
        (separator.intercalate (names ((scope, node) :: above) ++ [split.word])) := by
  have found : forest.declaring link split.word = (scope, node) :: above := by
    apply walk.declaring_eq undeclared
    rintro met ⟨⟩
    exact declared
  have nonempty : split.word.isEmpty = false := by simpa using isWord
  rw [resolveType, ← isSplit.eq_ofString]
  simp only [nonempty, found]
  rfl

/-- A word that no scope on the walk declares is left as it is, and so is an empty one. -/
theorem Walk.resolveType_of_undeclared {path : List (Id × Node)} (walk : forest.Walk link path)
    (isSplit : split.IsSplitOf type)
    (absent : split.word = "" ∨ ∀ met ∈ path, split.word ∉ met.2.types) (separator : String) :
    forest.resolveType link type separator = type := by
  rw [resolveType, ← isSplit.eq_ofString]
  rcases absent with empty | undeclared
  · rw [empty]
    rfl
  · have passed : forest.declaring link split.word = [] := by
      rw [← List.append_nil path] at walk
      apply walk.declaring_eq undeclared
      rintro met ⟨⟩
    simp only [passed, ite_self]

end Scope.Forest

end CppModel
