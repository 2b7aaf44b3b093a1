import CppModel.Proofs.Command.Effects

/-!
# Texts that are delivered

Texts that have been written one after another are all found at their places in the end,
except that a place holds the last text that was written to it.

For a model this means that each file holds the text it was named for, as long as the header
and the source are not sent to the same file.  Devices hold nothing.  The standard output has
been given the texts without a path, if it has no other name by which a text was sent there.
-/

namespace CppModel.Command

namespace Files

/-! ## Writing texts one after another -/

/-- The last text that is written to a place. -/
def lastText? (files : Files) (place : List String) : List (String × String) → Option String
  | [] => none
  | (path, text) :: rest =>
      (files.lastText? place rest).or (if files.place? path = some place then some text else none)

theorem SameSystem.lastText?_eq {files other : Files} (same : files.SameSystem other)
    (place : List String) (writes : List (String × String)) :
    other.lastText? place writes = files.lastText? place writes := by
  induction writes with
  | nil => rfl
  | cons write rest inductionHypothesis =>
      rw [lastText?, lastText?, inductionHypothesis, same.place?_eq]

/-- The texts stand in the files that they were written to, each place with the last one, and
everything else is as it was. -/
structure Receives (files : Files) (writes : List (String × String)) (after : Files) : Prop where
  system : files.SameSystem after
  entry?_eq : ∀ place, files.fixture? place = none → after.entry? place =
    (((files.lastText? place writes).map fun text => .file text.toUTF8).or <| files.entry? place)

section

variable {files : Files} {path text : String}

/-- A text that is sent to a fixture is in no file. -/
theorem receives_of_fixture {after : Files} {place : List String}
    (leads : files.place? path = some place) (isFixture : files.fixture? place ≠ none)
    (same : files.SameSystem after) (entries : after.entries = files.entries) :
    files.Receives [(path, text)] after := by
  refine ⟨same, fun asked free => ?_⟩
  have apart : place ≠ asked := by
    rintro rfl
    exact isFixture free
  simp [lastText?, leads, apart, entry?, entries]

theorem receives_of_write (taken : (files.write path text).1 = true) :
    files.Receives [(path, text)] (files.write path text).2 := by
  have same := files.sameSystem_write path text
  have outcome := files.writes_write path text
  generalize files.write path text = result at taken same outcome ⊢
  cases outcome with
  | refused => cases taken
  | stored place leads free =>
      refine ⟨same, fun asked _ => ?_⟩
      rw [store, Room.front_of_holds taken, entry?_put]
      by_cases isAsked : asked = place
      · simp [lastText?, leads, isAsked]
      · have apart : place ≠ asked := Ne.symm isAsked
        simp [lastText?, leads, isAsked, apart]
  | dropped place bytes leads stands =>
      exact receives_of_fixture leads (by simp [fixture?, stands]) same rfl
  | shown leads =>
      obtain ⟨place, leads, stands⟩ := leads
      exact receives_of_fixture leads (by simp [fixture?, stands]) same rfl

/-- What is written later is written over what was written before. -/
theorem Receives.append {middle after : Files} {writes : List (String × String)}
    (first : files.Receives [(path, text)] middle) (rest : middle.Receives writes after) :
    files.Receives ((path, text) :: writes) after := by
  refine ⟨first.system.trans rest.system, fun place free => ?_⟩
  have middleFree : middle.fixture? place = none := by rw [first.system.fixture?_eq, free]
  rw [rest.entry?_eq place middleFree, first.entry?_eq place free,
    first.system.lastText?_eq, lastText?, lastText?, lastText?, Option.none_or]
  cases files.lastText? place writes <;> rfl

end

/-- When all texts have been written, each is in its file, if no later one was written over
it. -/
theorem receives_of_writeAll {files : Files} {writes : List (String × String)}
    (succeeded : (files.writeAll writes).1 = true) :
    files.Receives writes (files.writeAll writes).2 := by
  induction writes generalizing files with
  | nil => exact ⟨.refl files, fun place _ => rfl⟩
  | cons write rest inductionHypothesis =>
      obtain ⟨path, text⟩ := write
      cases taken : (files.write path text).1 with
      | false =>
          rw [writeAll_of_refused taken] at succeeded
          cases succeeded
      | true =>
          rw [writeAll_of_taken taken] at succeeded ⊢
          exact (receives_of_write taken).append (inductionHypothesis succeeded)

/-- Printing is not writing to a file. -/
theorem Receives.print {files after : Files} {writes : List (String × String)}
    (received : files.Receives writes after) (text : String) :
    files.Receives writes (after.print text).files :=
  ⟨received.system.trans ⟨fun _ => rfl, rfl, rfl⟩, received.entry?_eq⟩

/-- The path leads to a file, and this is what it holds. -/
def Holds (files : Files) (path text : String) : Prop :=
  ∃ place, files.place? path = some place ∧ files.entry? place = some (.file text.toUTF8)

theorem Receives.holds {files after : Files} {writes : List (String × String)}
    (received : files.Receives writes after) {path text : String} {place : List String}
    (leads : files.place? path = some place) (free : files.fixture? place = none)
    (last : files.lastText? place writes = some text) : after.Holds path text := by
  refine ⟨place, received.system.place?_eq path ▸ leads, ?_⟩
  rw [received.entry?_eq place free, last]
  rfl

/-- A place that nothing was written to keeps what stands there. -/
theorem Receives.entry?_eq_of_not_last {files after : Files} {writes : List (String × String)}
    (received : files.Receives writes after) {place : List String}
    (untouched : files.lastText? place writes = none) :
    after.entry? place = files.entry? place := by
  cases stands : files.fixture? place with
  | none => rw [received.entry?_eq place stands, untouched, Option.map_none, Option.none_or]
  | some fixture =>
      have same := received.system.fixture?_eq place
      rw [stands] at same
      rw [entry?_of_fixture? same, entry?_of_fixture? stands]

/-- The path leads to a file, or to a place where a file can be made. -/
def LeadsToFile (files : Files) (path : String) : Prop :=
  ∃ place, files.place? path = some place ∧ files.fixture? place = none

end Files

/-! ## The texts of a model -/

/-- The texts that have no path, without the empty ones. -/
def unplaced (items : List (Option String × String)) : List String :=
  (items.filter fun item => item.1.isNone && !item.2.isEmpty).map Prod.snd

/-- Both texts of a model have arrived: each in the file that is named for it, and on the
standard output if none is.  A file that is named twice keeps the source. -/
structure Delivered (files : Files) (header source : Option String) (texts : Texts)
    (outcome : Outcome) : Prop where
  /-- Two paths may lead to one file although they differ. -/
  header_held : ∀ target, header = some target → files.LeadsToFile target →
    (∀ other, source = some other → files.place? other ≠ files.place? target) →
      outcome.files.Holds target texts.header
  source_held : ∀ target, source = some target → files.LeadsToFile target →
    outcome.files.Holds target texts.source
  output_eq : (∀ target, header = some target ∨ source = some target →
      ¬ files.LeadsToOutput target) →
    outcome.files.output = files.output.give
      ("\n".intercalate (unplaced [(header, texts.header), (source, texts.source)])).toUTF8
  untouched : ∀ place, (∀ target, header = some target → files.place? target ≠ some place) →
    (∀ target, source = some target → files.place? target ≠ some place) →
      outcome.files.entry? place = files.entry? place
  paths_kept : ∀ other, outcome.files.place? other = files.place? other

namespace Plan

theorem unplaced_nil : unplaced [] = [] :=
  rfl

theorem unplaced_cons (path : Option String) (text : String)
    (rest : List (Option String × String)) :
    unplaced ((path, text) :: rest) = printed path text ++ unplaced rest := by
  rw [unplaced, List.filter_cons, printed]
  by_cases isPrinted : (path.isNone && !text.isEmpty) = true
  · rw [if_pos isPrinted, if_pos isPrinted]
    rfl
  · rw [if_neg isPrinted, if_neg isPrinted]
    rfl

theorem output_ofTexts (header source : Option String) (texts : Texts) :
    (ofTexts header source texts).output =
      "\n".intercalate (unplaced [(header, texts.header), (source, texts.source)]) := by
  rw [ofTexts, unplaced_cons, unplaced_cons, unplaced_nil, List.append_nil]

/-- The source is written behind the header, and over it where both go to one place. -/
theorem lastText?_ofTexts (files : Files) (header source : Option String) (texts : Texts)
    (place : List String) :
    files.lastText? place (ofTexts header source texts).writes =
      (if source.bind files.place? = some place then some texts.source else none).or
        (if header.bind files.place? = some place then some texts.header else none) := by
  cases header <;> cases source <;> simp [ofTexts, fileWrites, Files.lastText?]

/-- A plan succeeds only if all files can be written and all of the output is taken. -/
theorem written_of_succeeded {plan : Plan} {files : Files}
    (succeeded : (plan.carryOut files).exitCode = 0) :
    (files.writeAll plan.writes).1 = true ∧
      (files.writeAll plan.writes).2.output.takes plan.output = true := by
  cases written : (files.writeAll plan.writes).1 with
  | false =>
      rw [carryOut_of_stopped written] at succeeded
      cases succeeded
  | true =>
      rw [carryOut_of_written written, Files.exitCode_print_iff] at succeeded
      exact ⟨rfl, succeeded⟩

theorem delivered_of_succeeded {files : Files} {header source : Option String} {texts : Texts}
    (succeeded : ((ofTexts header source texts).carryOut files).exitCode = 0) :
    Delivered files header source texts ((ofTexts header source texts).carryOut files) := by
  obtain ⟨written, taken⟩ := written_of_succeeded succeeded
  have received := (Files.receives_of_writeAll written).print (ofTexts header source texts).output
  rw [carryOut_of_written written]
  constructor
  case header_held =>
    rintro target rfl ⟨place, leads, free⟩ apart
    apply received.holds leads free
    have elsewhere : source.bind files.place? ≠ some place := by
      cases source with
      | none => simp
      | some other =>
          rw [Option.bind_some, ← leads]
          exact apart other rfl
    rw [lastText?_ofTexts, if_neg elsewhere, Option.bind_some, if_pos leads, Option.none_or]
  case source_held =>
    rintro target rfl ⟨place, leads, free⟩
    apply received.holds leads free
    rw [lastText?_ofTexts, Option.bind_some, if_pos leads, Option.some_or]
  case output_eq =>
    intro apart
    have allApart : ∀ write ∈ (ofTexts header source texts).writes,
        ¬ files.LeadsToOutput write.1 :=
      fun write listed => apart write.1 (named_of_mem_writes listed)
    have kept := Files.output_writeAll allApart
    rw [Files.print, Stream.print_of_takes taken, kept, output_ofTexts]
  case untouched =>
    intro place noHeader noSource
    apply received.entry?_eq_of_not_last
    rw [lastText?_ofTexts, if_neg, if_neg, Option.none_or]
    · cases header with
      | none => simp
      | some target => exact noHeader target rfl
    · cases source with
      | none => simp
      | some target => exact noSource target rfl
  case paths_kept => exact received.system.place?_eq

end Plan

/-- A rendering that succeeds has delivered both texts.

The file that is named for the source holds exactly the source, and the file that is named
for the header holds exactly the header, unless the source went to the same file, be it under
the same name or another one.  If no path leads to the standard output, it has been given the
texts without a path that are not empty, the header first, with a line feed between them.  No
other file has changed, and no path leads to another place. -/
theorem rendering_delivers {files : Files} {path : String} {level header source : Option String}
    (succeeded :
      ((Request.command level (.render path header source)).run files).exitCode = 0) :
    ∃ texts, loadTexts path (files.read? path) = .ok texts ∧
      Delivered files header source texts
        ((Request.command level (.render path header source)).run files) := by
  cases announced : files.announces level with
  | false =>
      rw [run_command_of_unannounced announced] at succeeded
      exact absurd succeeded files.panicCode_ne_zero
  | true =>
      rw [run_command_of_announced announced] at succeeded ⊢
      by_cases ready : IsReady path (files.read? path)
      · obtain ⟨texts, loaded⟩ := (loadTexts_eq_ok_iff path (files.read? path)).mpr ready
        rw [run_render_of_ready loaded] at succeeded ⊢
        exact ⟨texts, loaded, Plan.delivered_of_succeeded succeeded⟩
      · rw [run_render_of_not_ready ready] at succeeded
        exact absurd succeeded files.refusalCode_ne_zero

/-- A working directory with one model: a function with a body. -/
def kiosk : Files :=
  { entries := (Files.workplace ++ ["m.toml"],
      .file "functions=[['f','int',false,[],['return 1;'],'']]".toUTF8) :: system }

/-- The header goes to a file, and the source to the standard output. -/
theorem header_of_kiosk_is_held :
    ((Request.command none (.render "m.toml" (some "f.h") none)).run kiosk).exitCode = 0 ∧
      ((Request.command none (.render "m.toml" (some "f.h") none)).run kiosk).files.read? "f.h" =
        some "int f();\n".toUTF8 ∧
      ((Request.command none (.render "m.toml" (some "f.h") none)).run kiosk).files.output.bytes =
        "int f()\n\x7b\n    return 1;\n\x7d\n".toUTF8 ∧
      ∃ texts, loadTexts "m.toml" (kiosk.read? "m.toml") = .ok texts ∧
        Delivered kiosk (some "f.h") none texts
          ((Request.command none (.render "m.toml" (some "f.h") none)).run kiosk) := by
  have succeeded :
      ((Request.command none (.render "m.toml" (some "f.h") none)).run kiosk).exitCode = 0 := by
    decide +kernel
  exact ⟨succeeded, by decide +kernel, by decide +kernel, rendering_delivers succeeded⟩

/-- A file that is named for the header and for the source does not hold the header. -/
theorem shared_file_loses_header :
    ¬ ∀ (files : Files) (path : String) (level header source : Option String) (texts : Texts),
      loadTexts path (files.read? path) = .ok texts →
        ((Request.command level (.render path header source)).run files).exitCode = 0 →
          ∀ target, header = some target →
            ((Request.command level (.render path header source)).run files).files.read? target =
              some texts.header.toUTF8 := by
  intro held
  have found : (loadTexts "m.toml" (kiosk.read? "m.toml")).toOption =
      some ⟨"int f();\n", "int f()\n\x7b\n    return 1;\n\x7d\n"⟩ := by
    decide +kernel
  cases loaded : loadTexts "m.toml" (kiosk.read? "m.toml") with
  | error error =>
      rw [loaded] at found
      cases found
  | ok texts =>
      rw [loaded] at found
      cases found
      have succeeded : ((Request.command none
          (.render "m.toml" (some "f") (some "f"))).run kiosk).exitCode = 0 := by
        decide +kernel
      have lost : ((Request.command none
          (.render "m.toml" (some "f") (some "f"))).run kiosk).files.read? "f" ≠
            some "int f();\n".toUTF8 := by
        decide +kernel
      exact lost (held kiosk "m.toml" none (some "f") (some "f") _ loaded succeeded "f" rfl)

end CppModel.Command
