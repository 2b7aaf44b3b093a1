import CppModel.Proofs.Documentation.Blanks
import CppModel.Proofs.Lists.Related

/-!
# Dedented lines

Of the lines of a documentation text those from the first to the last one that shows are
written, each without the indentation that they share and without the blanks at its end.

The lines that are written are canonical: the first and the last one show, no line ends in a
blank, and some line has no indentation.  Canonical lines are written as they are, and lines
that all have the same blanks in front are written as they would be without them.
-/

namespace CppModel.Documentation

open Text

/-- The lines as they are written, where the empty line stands for a blank one. -/
def dedentLines (lines : List (List Char)) : List (List Char) :=
  (trimBlankLines lines).map (dedentLine (sharedIndentation (trimBlankLines lines)))

theorem dedent_eq (text : String) :
    dedent text = (dedentLines (lines text.toList)).map String.ofList :=
  rfl

variable {front line : List Char} {lines others : List (List Char)} {size : Nat}

/-! ## Single lines -/

/-- How a line of documentation is written if `size` bytes of indentation are shared: a blank
line as the empty one, and any other without blanks of this size in front of it, or without
all of them, and without the blanks at its end. -/
def IsWrittenAs (size : Nat) (line body : List Char) : Prop :=
  if isBlankLine line then body = []
  else ∃ front back, line = front ++ body ++ back ∧ isBlankLine front = true ∧
    isBlankLine back = true ∧ (∃ last ∈ body.getLast?, isBlank last = false) ∧
    (byteSize front = size ∨ ∃ first ∈ body.head?, isBlank first = false)

/-- Of a line that shows, a front of blanks is dropped and the rest is trimmed. -/
theorem exists_rest_of_dedentLine (shows : isBlankLine line = false)
    (within : size ≤ indentation line) :
    ∃ front rest, line = front ++ rest ∧ isBlankLine front = true ∧
      dedentLine size line = trimEnd rest ∧
      (byteSize front = size ∨ ∃ first ∈ rest.head?, isBlank first = false) := by
  rw [dedentLine, if_neg (Bool.not_eq_true _ ▸ shows)]
  cases dropped : dropBytes? line size with
  | none =>
      obtain ⟨front, split, blank, _⟩ := exists_front_of_trimStart line
      exact ⟨front, trimStart line, split, blank, rfl, .inr (exists_head_of_trimStart shows)⟩
  | some rest =>
      obtain ⟨front, rfl, measured⟩ := exists_front_of_dropBytes? dropped
      exact ⟨front, rest, rfl, isBlankLine_of_byteSize_le (measured.trans_le within), rfl,
        .inl measured⟩

theorem isWrittenAs_dedentLine (within : isBlankLine line = false → size ≤ indentation line) :
    IsWrittenAs size line (dedentLine size line) := by
  rw [IsWrittenAs]
  split
  case isTrue blank => rw [dedentLine, if_pos blank]
  case isFalse shows =>
    have shows := Bool.not_eq_true _ ▸ shows
    obtain ⟨front, rest, rfl, blank, written, measured⟩ :=
      exists_rest_of_dedentLine shows (within shows)
    rw [isBlankLine_append, blank, Bool.true_and] at shows
    obtain ⟨back, split, backBlank⟩ := exists_back_of_trimEnd rest
    rw [written]
    refine ⟨front, back, ?split, blank, backBlank, exists_last_of_trimEnd shows, ?measured⟩
    case split => rw [List.append_assoc, ← split]
    case measured => rwa [head?_trimEnd shows]

theorem IsWrittenAs.isBlankLine_eq {body : List Char} (written : IsWrittenAs size line body) :
    isBlankLine body = isBlankLine line := by
  rw [IsWrittenAs] at written
  split at written
  case isTrue blank => rw [written, blank, isBlankLine_nil]
  case isFalse shows =>
    obtain ⟨_, _, _, _, _, ⟨last, isLast, lastShows⟩, _⟩ := written
    rw [isBlankLine_eq_false_of_mem (List.mem_of_getLast? isLast) lastShows]
    exact (Bool.not_eq_true _ ▸ shows).symm

theorem IsWrittenAs.subset {body : List Char} (written : IsWrittenAs size line body) :
    body ⊆ line := by
  rw [IsWrittenAs] at written
  split at written
  case isTrue => exact written ▸ List.nil_subset line
  case isFalse =>
    obtain ⟨front, back, rfl, _⟩ := written
    intro character listed
    exact List.mem_append_left back (List.mem_append_right front listed)

theorem IsWrittenAs.ends {body : List Char} (written : IsWrittenAs size line body) :
    body = [] ∨ ∃ last ∈ body.getLast?, isBlank last = false := by
  rw [IsWrittenAs] at written
  split at written
  case isTrue => exact .inl written
  case isFalse =>
    obtain ⟨_, _, _, _, _, ends, _⟩ := written
    exact .inr ends

/-! ## The shared indentation -/

/-- No line that shows has less indentation than all of them share. -/
theorem sharedIndentation_le (listed : line ∈ lines) (shows : isBlankLine line = false) :
    sharedIndentation lines ≤ indentation line := by
  have measured : indentation line ∈ (lines.filter (! isBlankLine ·)).map indentation :=
    List.mem_map_of_mem (List.mem_filter.mpr ⟨listed, by rw [shows]; rfl⟩)
  exact List.min?_getD_le_of_mem measured

/-- Some line has no more indentation than all of them share. -/
theorem exists_indentation_eq (shown : ∃ line ∈ lines, isBlankLine line = false) :
    ∃ line ∈ lines, isBlankLine line = false ∧ indentation line = sharedIndentation lines := by
  obtain ⟨line, listed, shows⟩ := shown
  have measured : indentation line ∈ (lines.filter (! isBlankLine ·)).map indentation :=
    List.mem_map_of_mem (List.mem_filter.mpr ⟨listed, by rw [shows]; rfl⟩)
  obtain ⟨least, isLeast⟩ := Option.isSome_iff_exists.mp
    (List.isSome_min?_iff.mpr (List.ne_nil_of_mem measured))
  obtain ⟨flush, flushListed, flushMeasured⟩ := List.mem_map.mp (List.min?_mem isLeast)
  obtain ⟨inLines, flushShows⟩ := List.mem_filter.mp flushListed
  refine ⟨flush, inLines, by simpa using flushShows, ?_⟩
  rw [flushMeasured, sharedIndentation, isLeast, Option.getD_some]

/-! ## Blank lines around the others -/

/-- Lines of which the first and the last one show. -/
structure IsTrimmed (lines : List (List Char)) : Prop where
  first : ∀ line ∈ lines.head?, isBlankLine line = false
  last : ∀ line ∈ lines.getLast?, isBlankLine line = false

theorem isTrimmed_trimBlankLines (lines : List (List Char)) : IsTrimmed (trimBlankLines lines) := by
  refine ⟨fun line isFirst => ?first, fun line isLast => ?last⟩
  case first =>
    -- The blank lines at the end are dropped last, and this does not touch the first line.
    obtain ⟨behind, split⟩ := List.rdropWhile_prefix isBlankLine (lines.dropWhile isBlankLine)
    have known := List.head?_dropWhile_not isBlankLine lines
    change (List.rdropWhile _ _).head? = some line at isFirst
    rw [← split, List.head?_append, isFirst] at known
    exact known
  case last =>
    have nonempty : trimBlankLines lines ≠ [] := by
      rintro empty
      rw [empty] at isLast
      cases isLast
    rw [List.getLast?_eq_some_getLast nonempty, Option.mem_some_iff] at isLast
    rw [← isLast]
    exact Bool.not_eq_true _ ▸ List.rdropWhile_last_not isBlankLine _ nonempty

theorem IsTrimmed.trimBlankLines_eq (trimmed : IsTrimmed lines) : trimBlankLines lines = lines := by
  have front : lines.dropWhile isBlankLine = lines := by
    cases lines with
    | nil => rfl
    | cons line others =>
        have shows := trimmed.first line rfl
        rw [List.dropWhile_cons_of_neg (Bool.not_eq_true _ ▸ shows)]
  have back : lines.rdropWhile isBlankLine = lines := by
    refine List.rdropWhile_eq_self_iff.mpr fun nonempty => ?_
    rw [trimmed.last _ (List.getLast?_eq_some_getLast nonempty)]
    exact Bool.false_ne_true
  calc trimBlankLines lines
    _ = (lines.dropWhile isBlankLine).rdropWhile isBlankLine := rfl
    _ = lines := by rw [front, back]

theorem IsTrimmed.map (trimmed : IsTrimmed lines) {written : List Char → List Char}
    (same : ∀ line ∈ lines, isBlankLine (written line) = isBlankLine line) :
    IsTrimmed (lines.map written) := by
  refine ⟨fun line isFirst => ?first, fun line isLast => ?last⟩
  case first =>
    rw [List.head?_map] at isFirst
    obtain ⟨first, found, rfl⟩ := Option.map_eq_some_iff.mp isFirst
    rw [same first (List.mem_of_head? found), trimmed.first first found]
  case last =>
    rw [List.getLast?_map] at isLast
    obtain ⟨last, found, rfl⟩ := Option.map_eq_some_iff.mp isLast
    rw [same last (List.mem_of_getLast? found), trimmed.last last found]

/-- Where a line remains, one remains that shows. -/
theorem IsTrimmed.exists_shown (trimmed : IsTrimmed lines) (nonempty : lines ≠ []) :
    ∃ line ∈ lines, isBlankLine line = false :=
  ⟨lines.head nonempty, List.head_mem nonempty, trimmed.first _ (List.head?_eq_some_head nonempty)⟩

theorem exists_around_trimBlankLines (lines : List (List Char)) :
    ∃ before after, lines = before ++ trimBlankLines lines ++ after ∧
      (∀ line ∈ before, isBlankLine line = true) ∧ ∀ line ∈ after, isBlankLine line = true := by
  refine ⟨lines.takeWhile isBlankLine, (lines.dropWhile isBlankLine).rtakeWhile isBlankLine, ?split,
    fun _ => List.mem_takeWhile_imp, fun _ => List.mem_rtakeWhile_imp⟩
  have back : trimBlankLines lines ++ (lines.dropWhile isBlankLine).rtakeWhile isBlankLine =
      lines.dropWhile isBlankLine := List.rdropWhile_append_rtakeWhile
  rw [List.append_assoc, back, List.takeWhile_append_dropWhile]

theorem trimBlankLines_eq_nil_iff :
    trimBlankLines lines = [] ↔ ∀ line ∈ lines, isBlankLine line = true := by
  constructor
  · intro empty
    obtain ⟨before, after, split, beforeBlank, afterBlank⟩ := exists_around_trimBlankLines lines
    rw [split, empty, List.append_nil]
    exact List.forall_mem_append.mpr ⟨beforeBlank, afterBlank⟩
  · intro blank
    have front : lines.dropWhile isBlankLine = [] := List.dropWhile_eq_nil_iff.mpr blank
    rw [trimBlankLines, front]
    rfl

/-- Blank lines behind the others are dropped. -/
theorem trimBlankLines_append (lines : List (List Char)) {after : List (List Char)}
    (blank : ∀ line ∈ after, isBlankLine line = true) :
    trimBlankLines (lines ++ after) = trimBlankLines lines := by
  rw [trimBlankLines, trimBlankLines, List.dropWhile_append]
  split
  case isTrue empty =>
    rw [List.isEmpty_iff.mp empty, List.dropWhile_eq_nil_iff.mpr blank]
  case isFalse =>
    rw [List.reverse_append, List.dropWhile_append_of_pos fun line listed =>
      blank line (List.mem_reverse.mp listed)]

/-! ## Canonical lines -/

/-- Lines in the form in which documentation is written. -/
structure IsCanonical (lines : List (List Char)) : Prop where
  trimmed : IsTrimmed lines
  ends : ∀ line ∈ lines, line = [] ∨ ∃ last ∈ line.getLast?, isBlank last = false
  flush : lines ≠ [] → ∃ line ∈ lines, ∃ first ∈ line.head?, isBlank first = false

theorem isWrittenAs_of_mem_trimBlankLines (lines : List (List Char)) :
    ∀ line ∈ trimBlankLines lines, IsWrittenAs (sharedIndentation (trimBlankLines lines)) line
      (dedentLine (sharedIndentation (trimBlankLines lines)) line) :=
  fun _ listed => isWrittenAs_dedentLine fun shows => sharedIndentation_le listed shows

/-- What is written consists of characters of the lines. -/
theorem exists_subset_of_mem_dedentLines {body : List Char} (written : body ∈ dedentLines lines) :
    ∃ line ∈ lines, body ⊆ line := by
  obtain ⟨line, listed, rfl⟩ := List.mem_map.mp written
  obtain ⟨before, after, split, _⟩ := exists_around_trimBlankLines lines
  refine ⟨line, ?_, (isWrittenAs_of_mem_trimBlankLines lines line listed).subset⟩
  rw [split]
  exact List.mem_append_left after (List.mem_append_right before listed)

/-- A line that has no more indentation than is dropped begins with a character that shows. -/
theorem exists_head_of_dedentLine (shows : isBlankLine line = false) :
    ∃ first ∈ (dedentLine (indentation line) line).head?, isBlank first = false := by
  obtain ⟨front, split, blank, measured⟩ := exists_front_of_trimStart line
  have restShows : isBlankLine (trimStart line) = false := by
    rwa [split, isBlankLine_append, blank, Bool.true_and] at shows
  have written : dedentLine (indentation line) line = trimEnd (trimStart line) := by
    calc dedentLine (indentation line) line
      _ = dedentLine (byteSize front + 0) (front ++ trimStart line) := by
        rw [← split, measured, Nat.add_zero]
      _ = dedentLine 0 (trimStart line) := dedentLine_append blank restShows 0
      _ = trimEnd (trimStart line) := by
        rw [dedentLine, if_neg (Bool.not_eq_true _ ▸ restShows), dropBytes?_zero, Option.getD_some]
  rw [written, head?_trimEnd restShows]
  exact exists_head_of_trimStart shows

theorem isCanonical_dedentLines (lines : List (List Char)) : IsCanonical (dedentLines lines) := by
  have written := isWrittenAs_of_mem_trimBlankLines lines
  have trimmed := isTrimmed_trimBlankLines lines
  refine ⟨trimmed.map fun line listed => (written line listed).isBlankLine_eq, ?ends, ?flush⟩
  case ends =>
    exact List.forall_mem_map.mpr fun line listed => (written line listed).ends
  case flush =>
    intro nonempty
    obtain ⟨line, listed, shows, measured⟩ :=
      exists_indentation_eq (trimmed.exists_shown (mt List.map_eq_nil_iff.mpr nonempty))
    refine ⟨_, List.mem_map_of_mem listed, ?_⟩
    rw [← measured]
    exact exists_head_of_dedentLine shows

/-- Canonical lines are written as they are. -/
theorem IsCanonical.dedentLines_eq (canonical : IsCanonical lines) : dedentLines lines = lines := by
  rw [dedentLines, canonical.trimmed.trimBlankLines_eq]
  refine (List.map_congr_left fun line listed => ?_).trans (List.map_id lines)
  rcases canonical.ends line listed with rfl | ends
  case inl => rfl
  case inr =>
    obtain ⟨flush, flushListed, first, isFirst, firstShows⟩ :=
      canonical.flush (List.ne_nil_of_mem listed)
    have flushShows := isBlankLine_eq_false_of_mem (List.mem_of_head? isFirst) firstShows
    have noIndentation : indentation flush = 0 := by
      obtain ⟨others, rfl⟩ := List.head?_eq_some_iff.mp isFirst
      rw [indentation, List.takeWhile_cons_of_neg (Bool.not_eq_true _ ▸ firstShows), byteSize]
    have noShared : sharedIndentation lines = 0 :=
      Nat.le_zero.mp ((sharedIndentation_le flushListed flushShows).trans_eq noIndentation)
    obtain ⟨last, isLast, lastShows⟩ := ends
    have shows := isBlankLine_eq_false_of_mem (List.mem_of_getLast? isLast) lastShows
    rw [noShared, dedentLine, if_neg (Bool.not_eq_true _ ▸ shows), dropBytes?_zero,
      Option.getD_some, trimEnd_eq_self ⟨last, isLast, lastShows⟩, id]

/-! ## The same blanks in front of every line -/

/-- Both lines are blank, or the other one is the line behind the blanks in front. -/
def IsBehind (front line other : List Char) : Prop :=
  isBlankLine line = isBlankLine other ∧ (isBlankLine line = false → other = front ++ line)

theorem forall₂_trimBlankLines {related : List Char → List Char → Prop}
    (alike : List.Forall₂ related lines others)
    (agree : ∀ line other, related line other → isBlankLine line = isBlankLine other) :
    List.Forall₂ related (trimBlankLines lines) (trimBlankLines others) :=
  List.forall₂_reverse_iff.mpr
    (forall₂_dropWhile (List.forall₂_reverse_iff.mpr (forall₂_dropWhile alike agree)) agree)

theorem min?_map_add (sizes : List Nat) (added : Nat) :
    (sizes.map (added + ·)).min? = sizes.min?.map (added + ·) := by
  cases sizes with
  | nil => rfl
  | cons size sizes =>
      rw [List.map_cons, List.min?_cons', List.min?_cons', List.foldl_map, Option.map_some]
      exact congrArg some (List.foldl_hom (added + ·) fun _ _ => Nat.add_min_add_left ..)

theorem sharedIndentation_behind (blank : isBlankLine front = true)
    (alike : List.Forall₂ (IsBehind front) lines others)
    (shown : ∃ line ∈ lines, isBlankLine line = false) :
    sharedIndentation others = byteSize front + sharedIndentation lines := by
  have kept : List.Forall₂ (IsBehind front) (lines.filter (! isBlankLine ·))
      (others.filter (! isBlankLine ·)) :=
    forall₂_filter alike fun _ _ behind => congrArg not behind.1
  have showing := (List.forall₂_and_left (p := (isBlankLine · = false)) _ _).mpr
    ⟨fun line listed => by simpa using (List.mem_filter.mp listed).2, kept⟩
  have measured : (others.filter (! isBlankLine ·)).map indentation =
      ((lines.filter (! isBlankLine ·)).map indentation).map (byteSize front + ·) := by
    rw [List.map_map]
    refine (map_eq_of_forall₂ showing fun line other behind => ?_).symm
    rw [behind.2.2 behind.1, indentation_append blank, Function.comp_apply]
  obtain ⟨line, listed, shows⟩ := shown
  have nonempty : (lines.filter (! isBlankLine ·)).map indentation ≠ [] :=
    List.ne_nil_of_mem (List.mem_map_of_mem (List.mem_filter.mpr ⟨listed, by rw [shows]; rfl⟩))
  obtain ⟨least, isLeast⟩ := Option.isSome_iff_exists.mp (List.isSome_min?_iff.mpr nonempty)
  rw [sharedIndentation, sharedIndentation, measured, min?_map_add, isLeast]
  rfl

/-- Lines behind the same blanks are written as without them. -/
theorem dedentLines_behind (blank : isBlankLine front = true)
    (alike : List.Forall₂ (IsBehind front) lines others) :
    dedentLines others = dedentLines lines := by
  have trimmedAlike := forall₂_trimBlankLines alike fun _ _ behind => behind.1
  by_cases empty : trimBlankLines lines = []
  case pos =>
    rw [empty, List.forall₂_nil_left_iff] at trimmedAlike
    rw [dedentLines, dedentLines, empty, trimmedAlike]
  case neg =>
    have shown := (isTrimmed_trimBlankLines lines).exists_shown empty
    rw [dedentLines, dedentLines, sharedIndentation_behind blank trimmedAlike shown]
    refine (map_eq_of_forall₂ trimmedAlike fun line other behind => ?_).symm
    cases shows : isBlankLine line with
    | true => rw [dedentLine, dedentLine, if_pos shows, if_pos (behind.1.symm.trans shows)]
    | false => rw [behind.2 shows, dedentLine_append blank shows]

theorem dedentLines_append (lines : List (List Char)) {after : List (List Char)}
    (blank : ∀ line ∈ after, isBlankLine line = true) :
    dedentLines (lines ++ after) = dedentLines lines := by
  rw [dedentLines, dedentLines, trimBlankLines_append lines blank]

end CppModel.Documentation
