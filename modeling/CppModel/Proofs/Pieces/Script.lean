import CppModel.Proofs.Pieces.Trace
import CppModel.Proofs.Rendering.Forms
import Mathlib.Data.List.Forall2

/-!
# The pieces of a script

The pieces of a script are those on record when it is carried out, blank lines apart.
Which pieces a script writes does not depend on the place, for the scripts that elements
are rendered to.  They write a share of pieces, of which only the number matters here and
not the order.

The shares of scripts that follow each other add up, and so do those of forks that are kept
and of a block around a script.  Renderings of which each writes its own share write all of
them together.
-/

namespace CppModel

namespace Piece

/-- Documentation, if there is any. -/
def ofDoc : Option String → List Piece
  | some text => [.doc text]
  | none => []

/-- One run of a body, if there is one. -/
def ofBody (header : String) (content : Option Script) : List Piece :=
  content.toList.map (.body header)

/-- Whether the piece is a blank line. -/
def isBlank : Piece → Bool
  | .blank => true
  | _ => false

/-- The header and the body of a function, if the piece is a run of its body. -/
def run? : Piece → Option (String × Script)
  | .body header content => some (header, content)
  | _ => none

/-- The text of a line, if the piece is one. -/
def line? : Piece → Option String
  | .line text => some text
  | _ => none

/-- Whether the piece belongs to the frame of a class or an enumeration: a brace or a
label. -/
def isFrame : Piece → Bool
  | .opening _ => true
  | .closing _ => true
  | .label _ => true
  | _ => false

/-- The runs of bodies among the pieces, in order, each with its header. -/
def runs (pieces : List Piece) : List (String × Script) :=
  pieces.filterMap run?

/-- The lines among the pieces, in order. -/
def lines (pieces : List Piece) : List String :=
  pieces.filterMap line?

/-- The frames among the pieces, in order. -/
def frames (pieces : List Piece) : List Piece :=
  pieces.filter isFrame

@[simp]
theorem runs_nil : runs [] = [] :=
  rfl

@[simp]
theorem lines_nil : lines [] = [] :=
  rfl

@[simp]
theorem frames_nil : frames [] = [] :=
  rfl

@[simp]
theorem runs_line (text : String) (rest : List Piece) : runs (.line text :: rest) = runs rest :=
  rfl

@[simp]
theorem lines_line (text : String) (rest : List Piece) :
    lines (.line text :: rest) = text :: lines rest :=
  rfl

@[simp]
theorem frames_line (text : String) (rest : List Piece) :
    frames (.line text :: rest) = frames rest :=
  rfl

@[simp]
theorem runs_braces (header closing : String) (rest : List Piece) :
    runs (.opening header :: .closing closing :: rest) = runs rest :=
  rfl

@[simp]
theorem lines_braces (header closing : String) (rest : List Piece) :
    lines (.opening header :: .closing closing :: rest) = lines rest :=
  rfl

@[simp]
theorem runs_append (first second : List Piece) :
    runs (first ++ second) = runs first ++ runs second :=
  List.filterMap_append

@[simp]
theorem lines_append (first second : List Piece) :
    lines (first ++ second) = lines first ++ lines second :=
  List.filterMap_append

@[simp]
theorem frames_append (first second : List Piece) :
    frames (first ++ second) = frames first ++ frames second :=
  List.filter_append first second

@[simp]
theorem runs_ofDoc (documentation : Option String) : runs (ofDoc documentation) = [] := by
  cases documentation <;> rfl

@[simp]
theorem lines_ofDoc (documentation : Option String) : lines (ofDoc documentation) = [] := by
  cases documentation <;> rfl

@[simp]
theorem frames_ofDoc (documentation : Option String) : frames (ofDoc documentation) = [] := by
  cases documentation <;> rfl

@[simp]
theorem runs_ofBody (header : String) (content : Option Script) :
    runs (ofBody header content) = (content.map (header, ·)).toList := by
  cases content <;> rfl

@[simp]
theorem lines_ofBody (header : String) (content : Option Script) :
    lines (ofBody header content) = [] := by
  cases content <;> rfl

@[simp]
theorem frames_ofBody (header : String) (content : Option Script) :
    frames (ofBody header content) = [] := by
  cases content <;> rfl

@[simp]
theorem runs_map_line (texts : List String) : runs (texts.map .line) = [] := by
  induction texts with
  | nil => rfl
  | cons first rest inductionHypothesis => exact inductionHypothesis

@[simp]
theorem lines_map_line (texts : List String) : lines (texts.map .line) = texts := by
  induction texts with
  | nil => rfl
  | cons first rest inductionHypothesis => exact congrArg (first :: ·) inductionHypothesis

end Piece

/-- The pieces of a record, without the blank lines. -/
def Trace.pieces (trace : Trace) : List Piece :=
  (trace.entries.map (·.piece)).filter (! ·.isBlank)

namespace Script

variable {first second script : Script} {share other : List Piece}

/-- The pieces on record when a script has been carried out. -/
def pieces (script : Script) (sink : Sink) : List Piece :=
  (trace script sink).pieces

theorem pieces_singleton (step : Step) (sink : Sink) :
    pieces [step] sink = (step.trace sink).pieces := by
  rw [pieces, trace_singleton]

/-- Behind a total script, the pieces of the next one follow. -/
theorem Total.pieces_append (total : first.Total) (second : Script) (sink : Sink) :
    pieces (first ++ second) sink = pieces first sink ++ pieces second (run first sink).1 := by
  have finished := total sink
  rw [run_eq_trace] at finished ⊢
  rw [pieces, pieces, trace_append]
  generalize trace first sink = whole at finished ⊢
  rcases whole with ⟨next, _ | reason, entries⟩
  · simp only [Trace.pieces, List.map_append, List.filter_append, pieces]
  · cases finished

/-! ## Shares -/

/-- The script never fails, and in every place these are its pieces, in some order. -/
structure Writes (script : Script) (share : List Piece) : Prop where
  total : script.Total
  pieces_perm (sink : Sink) : (pieces script sink).Perm share

theorem Writes.perm (writes : script.Writes share) (same : share.Perm other) :
    script.Writes other where
  total := writes.total
  pieces_perm sink := (writes.pieces_perm sink).trans same

theorem writes_nil : Writes [] [] where
  total := total_nil
  pieces_perm _ := .nil

theorem Writes.append (firstWrites : first.Writes share) (secondWrites : second.Writes other) :
    Writes (first ++ second) (share ++ other) where
  total := firstWrites.total.append secondWrites.total
  pieces_perm sink := by
    rw [firstWrites.total.pieces_append]
    exact (firstWrites.pieces_perm sink).append (secondWrites.pieces_perm _)

/-- A step that never fails and writes the same everywhere. -/
theorem writes_step {step : Step} (total : Total [step])
    (same : ∀ sink, (step.trace sink).pieces.Perm share) : Writes [step] share where
  total := total
  pieces_perm sink := by
    rw [pieces_singleton]
    exact same sink

theorem writes_line (text : String) : Writes [.line text] [.line text] :=
  writes_step (total_line text) fun _ => .refl _

theorem writes_ofLines (texts : List String) : Writes (ofLines texts) (texts.map .line) := by
  induction texts with
  | nil => exact writes_nil
  | cons first rest inductionHypothesis => exact (writes_line first).append inductionHypothesis

theorem writes_ofDoc (documentation : Option String) :
    Writes (ofDoc documentation) (Piece.ofDoc documentation) := by
  cases documentation with
  | none => exact writes_nil
  | some text => exact writes_step (total_ofDoc (some text)) fun _ => .refl _

/-- The block of a function is one run of its body. -/
theorem writes_function (header : String) (content : Script) :
    Writes [.block header "" content] [.body header content] :=
  writes_step (total_block header "" content) fun _ => .refl _

/-- The block of a class or an enumeration is its braces and what is inside. -/
theorem Writes.framed (writes : script.Writes share) (header : String) :
    Writes [.block header ";" script] (.opening header :: .closing ";" :: share) :=
  writes_step (total_block header ";" script) fun sink => by
    have inside : (trace script (sink.openBlock header)).pieces.Perm share :=
      writes.pieces_perm (sink.openBlock header)
    have whole : (Step.trace (.block header ";" script) sink).pieces =
        .opening header :: ((trace script (sink.openBlock header)).pieces ++ [.closing ";"]) := by
      simp [Step.trace, Trace.pieces, Piece.isBlank]
    rw [whole]
    exact (List.perm_append_singleton _ _ |>.trans (inside.cons _)).cons _

/-- A fork that is kept writes what its script writes. -/
theorem Writes.fork (writes : script.Writes share) : Writes [.fork script true] share :=
  writes_step (total_fork writes.total) fun sink => by
    have finished := writes.total sink.fork
    have inside : (trace script sink.fork).pieces.Perm share := writes.pieces_perm sink.fork
    rw [run_eq_trace] at finished
    rw [Step.trace]
    generalize trace script sink.fork = whole at finished inside ⊢
    rcases whole with ⟨next, _ | reason, entries⟩
    · exact inside
    · cases finished

theorem Writes.share_eq_nil (writes : Writes [] share) : share = [] :=
  (writes.pieces_perm default).nil_eq.symm

theorem writes_flatten {scripts : List Script} {shares : List (List Piece)}
    (write : List.Forall₂ Writes scripts shares) : Writes scripts.flatten shares.flatten := by
  induction write with
  | nil => exact writes_nil
  | cons firstWrites _ inductionHypothesis => exact firstWrites.append inductionHypothesis

/-- Kept forks with blank lines between them write what their scripts write. -/
theorem writes_intercalate_forks {scripts : List Script} {shares : List (List Piece)}
    (write : List.Forall₂ Writes scripts shares) :
    Writes ([Step.blank].intercalate (scripts.map fun script => [Step.fork script true]))
      shares.flatten := by
  induction write with
  | nil => exact writes_nil
  | @cons first share rest shares firstWrites restWrite inductionHypothesis =>
      cases restWrite with
      | nil => simpa using firstWrites.fork
      | cons secondWrites othersWrite =>
          have blankWrites : Writes [.blank] [] :=
            writes_step (fun sink => by rw [run_singleton, Step.run]) fun _ => .refl _
          have whole := firstWrites.fork.append (blankWrites.append inductionHypothesis)
          simpa only [List.map_cons, List.intercalate_cons_cons, List.append_assoc,
            List.flatten_cons, List.nil_append] using whole

/-- A script without steps has no share. -/
theorem exists_shares_nonempty {scripts : List Script} {shares : List (List Piece)}
    (write : List.Forall₂ Writes scripts shares) :
    ∃ kept, List.Forall₂ Writes (nonempty scripts) kept ∧ kept.flatten = shares.flatten := by
  induction write with
  | nil => exact ⟨[], .nil, rfl⟩
  | @cons first share rest shares firstWrites _ inductionHypothesis =>
      rcases inductionHypothesis with ⟨kept, keptWrite, same⟩
      cases first with
      | nil =>
          refine ⟨kept, keptWrite, ?_⟩
          rw [firstWrites.share_eq_nil, same]
          rfl
      | cons step others =>
          refine ⟨share :: kept, .cons firstWrites keptWrite, ?_⟩
          rw [List.flatten_cons, same, List.flatten_cons]

theorem writes_paragraphs {scripts : List Script} {shares : List (List Piece)}
    (write : List.Forall₂ Writes scripts shares) : Writes (paragraphs scripts) shares.flatten := by
  rcases exists_shares_nonempty write with ⟨kept, keptWrite, same⟩
  rw [← same]
  exact writes_intercalate_forks keptWrite

end Script

namespace Rendering

/-- If the rendering succeeds, its script writes these pieces. -/
def Writes (rendering : Rendering) (share : List Piece) : Prop :=
  ∀ script, rendering = .ok script → script.Writes share

variable {rendering : Rendering} {share other : List Piece}

theorem writes_pure {script : Script} (writes : script.Writes share) :
    Writes (pure script) share :=
  gives_pure writes

theorem writes_error (error : Error) (share : List Piece) : Writes (.error error) share :=
  gives_error error

theorem writes_bind {First : Type} {first : Except Error First} {next : First → Rendering}
    (writes : ∀ value, first = .ok value → Writes (next value) share) :
    Writes (first >>= next) share :=
  gives_bind writes

/-- The renderings write these pieces together, each of them its own share. -/
def WriteAll (renderings : List Rendering) (share : List Piece) : Prop :=
  ∃ shares, List.Forall₂ Writes renderings shares ∧ shares.flatten.Perm share

variable {renderings others : List Rendering}

theorem writeAll_nil : WriteAll [] [] :=
  ⟨[], .nil, .nil⟩

theorem WriteAll.append (write : WriteAll renderings share) (othersWrite : WriteAll others other) :
    WriteAll (renderings ++ others) (share ++ other) := by
  rcases write with ⟨shares, each, together⟩
  rcases othersWrite with ⟨otherShares, otherEach, otherTogether⟩
  refine ⟨shares ++ otherShares, List.rel_append each otherEach, ?_⟩
  rw [List.flatten_append]
  exact together.append otherTogether

theorem WriteAll.cons (writes : Writes rendering share) (write : WriteAll others other) :
    WriteAll (rendering :: others) (share ++ other) := by
  rcases write with ⟨shares, each, together⟩
  exact ⟨share :: shares, .cons writes each, together.append_left share⟩

section Items

variable {Item : Type} {render : Item → Rendering} {share : Item → List Piece} {items : List Item}

theorem writeAll_map (writes : ∀ item ∈ items, Writes (render item) (share item)) :
    WriteAll (items.map render) (items.flatMap share) := by
  induction items with
  | nil => exact writeAll_nil
  | cons first rest inductionHypothesis =>
      rcases List.forall_mem_cons.mp writes with ⟨firstWrites, restWrite⟩
      exact .cons firstWrites (inductionHypothesis restWrite)

theorem writeAll_flatMap {renderAll : Item → List Rendering}
    (write : ∀ item ∈ items, WriteAll (renderAll item) (share item)) :
    WriteAll (items.flatMap renderAll) (items.flatMap share) := by
  induction items with
  | nil => exact writeAll_nil
  | cons first rest inductionHypothesis =>
      rcases List.forall_mem_cons.mp write with ⟨firstWrite, restWrite⟩
      exact firstWrite.append (inductionHypothesis restWrite)

/-- Items that have no share need not be rendered. -/
theorem writeAll_map_filter (needed : Item → Bool)
    (writes : ∀ item ∈ items, needed item = true → Writes (render item) (share item))
    (nothing : ∀ item, needed item = false → share item = []) :
    WriteAll ((items.filter needed).map render) (items.flatMap share) := by
  induction items with
  | nil => exact writeAll_nil
  | cons first rest inductionHypothesis =>
      rcases List.forall_mem_cons.mp writes with ⟨firstWrites, restWrite⟩
      have restAll := inductionHypothesis restWrite
      cases isNeeded : needed first with
      | false =>
          rw [List.filter_cons_of_neg (Bool.not_eq_true _ ▸ isNeeded), List.flatMap_cons,
            nothing first isNeeded]
          exact restAll
      | true =>
          rw [List.filter_cons_of_pos isNeeded]
          exact .cons (firstWrites isNeeded) restAll

end Items

/-- If all renderings of a list succeed, each of their scripts writes its share. -/
theorem forall₂_writes_of_all {scripts : List Script} {shares : List (List Piece)}
    (each : List.Forall₂ Writes renderings shares) (succeeded : all renderings = .ok scripts) :
    List.Forall₂ Script.Writes scripts shares := by
  rw [all_eq_ok_iff] at succeeded
  subst succeeded
  rw [List.forall₂_map_left_iff] at each
  exact each.imp fun script share writes => writes script rfl

theorem WriteAll.flatten (write : WriteAll renderings share) {scripts : List Script}
    (succeeded : all renderings = .ok scripts) : Script.Writes scripts.flatten share := by
  rcases write with ⟨shares, each, together⟩
  exact (Script.writes_flatten (forall₂_writes_of_all each succeeded)).perm together

theorem WriteAll.paragraphs (write : WriteAll renderings share) :
    Writes (paragraphs renderings) share := by
  rcases write with ⟨shares, each, together⟩
  apply writes_bind
  intro scripts succeeded
  apply writes_pure
  exact (Script.writes_paragraphs (forall₂_writes_of_all each succeeded)).perm together

end Rendering

end CppModel
