import CppModel.Proofs.Documentation.Dedent
import CppModel.Proofs.Layout.Place

/-!
# Documentation in canonical form

The text that is written for documentation depends on its canonical lines and on the place.
The same blanks in front of every line of the documentation, whether they come from an
indented literal or from the margin of the place where it was written before, do not change
the canonical lines.  So documentation can be read back from a generated text and written
again in any other place.
-/

namespace CppModel

open Text

namespace Documentation

variable {front : List Char}

/-! ## Texts behind the same blanks -/

/-- The other text has the characters in front of each line.  An empty line may stay empty. -/
def IsIndented (front : List Char) (text other : List Char) : Prop :=
  List.Forall₂ (fun line otherLine => otherLine = front ++ line ∨ line = [] ∧ otherLine = [])
    (text.splitOn '\n') (other.splitOn '\n')

theorem isIndented_mapLines (oneLine : '\n' ∉ front) (text : List Char) :
    IsIndented front text (mapLines (front ++ ·) text) := by
  have keeps : ∀ line, '\n' ∉ line → '\n' ∉ front ++ line := by simp [oneLine]
  rw [IsIndented, splitOn_mapLines keeps]
  exact List.forall₂_map_right_iff.mpr (List.forall₂_same.mpr fun line _ => .inl rfl)

theorem isBlankLine_withoutReturn {line : List Char} (blank : isBlankLine line = true) :
    isBlankLine (withoutReturn line) = true :=
  List.all_eq_true.mpr fun character listed =>
    List.all_eq_true.mp blank character ((withoutReturn_isPrefix line).mem listed)

theorem isBehind_nil {line other : List Char} (empty : line = [])
    (blank : isBlankLine other = true) : IsBehind front line other := by
  subst empty
  exact ⟨blank.symm, fun shows => absurd shows.symm Bool.false_ne_true⟩

theorem isBehind_append (blank : isBlankLine front = true) (line : List Char) :
    IsBehind front line (front ++ line) :=
  ⟨by rw [isBlankLine_append, blank, Bool.true_and], fun _ => rfl⟩

/-- Each piece gives a line behind the blanks, and the last one may give a line of blanks where
there was none. -/
theorem exists_behind (blank : isBlankLine front = true) {pieces otherPieces : List (List Char)}
    (indented : List.Forall₂
      (fun line otherLine => otherLine = front ++ line ∨ line = [] ∧ otherLine = [])
      pieces otherPieces) :
    ∃ behind after, linesOfPieces otherPieces = behind ++ after ∧
      List.Forall₂ (IsBehind front) (linesOfPieces pieces) behind ∧
      ∀ line ∈ after, isBlankLine line = true := by
  induction indented with
  | nil => exact ⟨[], [], rfl, .nil, List.forall_mem_nil _⟩
  | @cons piece other pieces others isIndented rest inductionHypothesis =>
      cases rest with
      | nil =>
          rw [linesOfPieces, linesOfPieces]
          rcases isIndented with rfl | ⟨rfl, rfl⟩
          case inr => exact ⟨[], [], rfl, .nil, List.forall_mem_nil _⟩
          case inl =>
            cases piece with
            | nil =>
                rw [List.append_nil]
                refine ⟨[], if front.isEmpty then [] else [front], rfl, .nil, ?_⟩
                split
                · exact List.forall_mem_nil _
                · exact List.forall_mem_singleton.mpr blank
            | cons character piece =>
                rw [if_neg (by simp), if_neg (by simp)]
                exact ⟨[_], [], rfl, .cons (isBehind_append blank _) .nil, List.forall_mem_nil _⟩
      | cons nextIndented rest =>
          obtain ⟨behind, after, split, alike, afterBlank⟩ := inductionHypothesis
          rw [linesOfPieces, linesOfPieces, split]
          refine ⟨_ :: behind, after, rfl, .cons ?_ alike, afterBlank⟩
          rcases isIndented with rfl | ⟨rfl, rfl⟩
          case inr => exact isBehind_nil rfl rfl
          case inl =>
            cases piece with
            | nil =>
                rw [List.append_nil]
                exact isBehind_nil rfl (isBlankLine_withoutReturn blank)
            | cons character piece =>
                rw [withoutReturn_append front (List.cons_ne_nil character piece)]
                exact isBehind_append blank _

/-- The same blanks in front of every line of a text do not change what is written for it. -/
theorem dedentLines_of_isIndented (blank : isBlankLine front = true) {text other : List Char}
    (indented : IsIndented front text other) :
    dedentLines (lines other) = dedentLines (lines text) := by
  obtain ⟨behind, after, split, alike, afterBlank⟩ := exists_behind blank indented
  rw [lines_eq, lines_eq, split, dedentLines_append behind afterBlank,
    dedentLines_behind blank alike]

end Documentation

/-! ## What is written -/

open Documentation

theorem Style.isBlankLine_margin (style : Style) (level : Nat) :
    isBlankLine (style.margin level) = true := by
  have unitBlank : isBlankLine style.indent.unit = true := by
    cases style.indent with
    | spaces width =>
        refine List.all_eq_true.mpr fun character listed => ?_
        rw [List.eq_of_mem_replicate listed]
        rfl
    | tab => rfl
  induction level with
  | zero => rfl
  | succ level inductionHypothesis =>
      rw [Style.margin_succ, isBlankLine_append, unitBlank, inductionHypothesis, Bool.and_self]

theorem Style.newline_not_mem_margin (style : Style) (level : Nat) :
    '\n' ∉ style.margin level := by
  have notInUnit : '\n' ∉ style.indent.unit := by
    cases style.indent with
    | spaces width => exact fun listed => absurd (List.eq_of_mem_replicate listed) (by decide)
    | tab => decide
  rw [Style.margin, List.mem_flatten]
  rintro ⟨unit, listed, inUnit⟩
  rw [List.eq_of_mem_replicate listed] at inUnit
  exact notInUnit inUnit

namespace Place

variable {place : Place}

theorem toList_docLine (place : Place) (line : List Char) :
    (place.docLine (String.ofList line)).toList =
      indentLine (place.style.margin place.level) line ++ ['\n'] := by
  rw [docLine, indentLine]
  cases line with
  | nil => simp
  | cons character line => simp [Place.line]

theorem toList_documentation (place : Place) (text : String) :
    (place.documentation (some text)).toList =
      joinLines ((dedentLines (lines text.toList)).map
        (indentLine (place.style.margin place.level))) := by
  rw [documentation, String.toList_join, dedent_eq, joinLines, List.flatMap_map,
    List.flatMap_map, List.flatMap_map]
  exact List.flatMap_congr fun line _ => place.toList_docLine line

/-- Nothing is written for documentation exactly if none of its lines shows. -/
theorem documentation_eq_empty_iff (place : Place) {text : String} :
    place.documentation (some text) = "" ↔
      ∀ line ∈ lines text.toList, isBlankLine line = true := by
  have nothing : place.documentation (some text) = "" ↔ dedentLines (lines text.toList) = [] := by
    rw [← String.toList_inj, toList_documentation]
    cases dedentLines (lines text.toList) <;> simp [joinLines]
  rw [nothing, dedentLines, List.map_eq_nil_iff, trimBlankLines_eq_nil_iff]

/-- No line of what is written has a line feed inside. -/
theorem newline_not_mem_documentation (place : Place) (text : String) :
    ∀ line ∈ (dedentLines (lines text.toList)).map (indentLine (place.style.margin place.level)),
      '\n' ∉ line := by
  rw [List.forall_mem_map]
  intro body written
  obtain ⟨line, listed, subset⟩ := exists_subset_of_mem_dedentLines written
  exact newline_not_mem_indentLine (place.style.newline_not_mem_margin place.level) fun inBody =>
    newline_not_mem_lines text.toList line listed (subset inBody)

/-- The lines of what is written are the canonical lines behind the margin of the place. -/
theorem lines_documentation (place : Place) (text : String) :
    lines (place.documentation (some text)).toList =
      (dedentLines (lines text.toList)).map (indentLine (place.style.margin place.level)) := by
  rw [toList_documentation]
  refine lines_joinLines (place.newline_not_mem_documentation text)
    (List.forall_mem_map.mpr fun body written => ?_)
  rw [getLast?_indentLine]
  rcases (isCanonical_dedentLines _).ends body written with rfl | ⟨last, isLast, shows⟩
  case inl => exact fun returned => nomatch returned
  case inr =>
    intro returned
    rw [returned, Option.mem_some_iff] at isLast
    subst isLast
    exact absurd shows (by decide)

theorem dedentLines_documentation (place : Place) (text : String) :
    dedentLines (lines (place.documentation (some text)).toList) =
      dedentLines (lines text.toList) := by
  have behind : List.Forall₂ (IsBehind (place.style.margin place.level))
      (dedentLines (lines text.toList))
      ((dedentLines (lines text.toList)).map (indentLine (place.style.margin place.level))) := by
    refine List.forall₂_map_right_iff.mpr (List.forall₂_same.mpr fun line _ => ?_)
    cases line with
    | nil => exact isBehind_nil rfl rfl
    | cons character line => exact isBehind_append (place.style.isBlankLine_margin place.level) _
  rw [lines_documentation, dedentLines_behind (place.style.isBlankLine_margin place.level) behind,
    (isCanonical_dedentLines _).dedentLines_eq]

end Place

/-- What is written depends on the canonical lines of the documentation only. -/
theorem Sink.doc_congr (sink : Sink) {text other : String}
    (same : dedentLines (lines other.toList) = dedentLines (lines text.toList)) :
    sink.doc other = sink.doc text := by
  rw [doc, doc, dedent_eq, dedent_eq, same]

/-- What is written for documentation.  It is nothing exactly if no line shows.  Otherwise the
lines from the first to the last one that shows are written, one line for each: a blank one
as a line feed, and any other one behind the margin, without the indentation that all share
and without blanks at its end, so that some line begins right behind the margin.

The same blanks in front of every line of the documentation do not change what is written,
and neither does it matter whether the documentation is the given one or what was written for
it in another place. -/
theorem documentation_is_canonical (text : String) (sink : Sink) :
    (sink.doc text = sink ↔ ∀ line ∈ lines text.toList, isBlankLine line = true) ∧
      ((∃ line ∈ lines text.toList, isBlankLine line = false) →
        ∃ before kept after bodies,
          lines text.toList = before ++ kept ++ after ∧
            (∀ line ∈ before ++ after, isBlankLine line = true) ∧ IsTrimmed kept ∧
            List.Forall₂ (IsWrittenAs (sharedIndentation kept)) kept bodies ∧
            (∃ body ∈ bodies, ∃ first ∈ body.head?, isBlank first = false) ∧
            sink.doc text = sink.raw
              (String.join (bodies.map fun body => sink.place.docLine (String.ofList body)))) ∧
      (∀ front (other : String), isBlankLine front = true →
        IsIndented front text.toList other.toList → sink.doc other = sink.doc text) ∧
      ∀ (other : Sink) written, (other.doc text).text = other.text ++ written →
        sink.doc written = sink.doc text := by
  refine ⟨?nothing, fun shown => ?written, fun front other blank indented => ?indented,
    fun other written isWritten => ?again⟩
  case nothing =>
    rw [← sink.place.documentation_eq_empty_iff, Sink.doc_eq_raw]
    constructor
    · intro same
      exact String.append_eq_left_iff.mp (congrArg Sink.text same)
    · intro empty
      rw [empty, Sink.raw_empty]
  case written =>
    obtain ⟨before, after, split, beforeBlank, afterBlank⟩ :=
      exists_around_trimBlankLines (lines text.toList)
    refine ⟨before, trimBlankLines (lines text.toList), after, dedentLines (lines text.toList),
      split, List.forall_mem_append.mpr ⟨beforeBlank, afterBlank⟩,
      isTrimmed_trimBlankLines _, ?_, ?_, ?_⟩
    · exact List.forall₂_map_right_iff.mpr
        (List.forall₂_same.mpr (isWrittenAs_of_mem_trimBlankLines _))
    · apply (isCanonical_dedentLines _).flush
      intro nothing
      obtain ⟨line, listed, shows⟩ := shown
      have blank := trimBlankLines_eq_nil_iff.mp (List.map_eq_nil_iff.mp nothing) line listed
      exact Bool.false_ne_true (shows.symm.trans blank)
    · rw [Sink.doc_eq_raw, Place.documentation, dedent_eq, List.map_map]
      rfl
  case indented => exact sink.doc_congr (dedentLines_of_isIndented blank indented)
  case again =>
    rw [Sink.doc_eq_raw, Sink.text_raw] at isWritten
    rw [← (String.append_right_inj other.text).mp isWritten]
    exact sink.doc_congr (other.place.dedentLines_documentation text)

namespace Remark

/-- Documentation with terminators of both kinds.  Its lines share one byte of indentation,
which ends inside the no-break space of the second line that shows. -/
def given : String := " \r\n\tfirst  \r\n\u00a0 second\n\n\t third\n"

/-- The documentation with an ideographic space in front of every line. -/
def indented : String := String.ofList (mapLines (['\u3000'] ++ ·) given.toList)

/-- What is written for the documentation one level in. -/
def written : String := "  first\n  second\n\n   third\n"

end Remark

open Remark in
/-- The remark is written alike as it is given, with blanks in front of its lines, and as it was
written before. -/
theorem remark_is_canonical :
    (∃ line ∈ lines given.toList, isBlankLine line = false) ∧
      (∃ before kept after bodies, lines given.toList = before ++ kept ++ after ∧
        List.Forall₂ (IsWrittenAs (sharedIndentation kept)) kept bodies) ∧
      IsIndented ['\u3000'] given.toList indented.toList ∧
      Sink.doc ⟨.narrow, 1, ""⟩ given = ⟨.narrow, 1, written⟩ ∧
      Sink.doc ⟨.tabbed, 0, ""⟩ indented = Sink.doc ⟨.tabbed, 0, ""⟩ given ∧
      Sink.doc ⟨.tabbed, 0, ""⟩ written = Sink.doc ⟨.tabbed, 0, ""⟩ given := by
  have shown : ∃ line ∈ lines given.toList, isBlankLine line = false :=
    ⟨"\tfirst  ".toList, by decide +kernel, by decide +kernel⟩
  have isIndented : IsIndented ['\u3000'] given.toList indented.toList := by
    rw [indented, String.toList_ofList]
    exact isIndented_mapLines (by decide) given.toList
  have isWritten : Sink.doc ⟨.narrow, 1, ""⟩ given = ⟨.narrow, 1, written⟩ := by decide +kernel
  obtain ⟨_, kept, sameIndented, sameWritten⟩ :=
    documentation_is_canonical given ⟨.tabbed, 0, ""⟩
  obtain ⟨before, kept, after, bodies, split, _, _, alike, _⟩ := kept shown
  refine ⟨shown, ⟨before, kept, after, bodies, split, alike⟩, isIndented, isWritten,
    sameIndented ['\u3000'] indented (by decide) isIndented, ?_⟩
  apply sameWritten ⟨.narrow, 1, ""⟩ written
  rw [isWritten]
  decide +kernel

end CppModel
