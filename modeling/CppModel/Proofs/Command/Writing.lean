import CppModel.Command.Run

/-!
# Writing to the tree of files

Writing a text puts a file where there is none or replaces the one that is there, gives the
text to a device or to the standard output, or is refused.  It makes no directory and no
device, and it takes none away, so a path leads to the same place before and after.  What
holds of one write holds of texts that are written one after another, however far this goes.
-/

namespace CppModel.Command

namespace Files

/-! ## Fixtures -/

/-- The directory or the device that stands at a place.  Files come and go; fixtures stay. -/
def fixture? (files : Files) (place : List String) : Option Entry :=
  match files.entry? place with
  | some (.file _) => none
  | other => other

/-- Two trees have the same directories, devices and links, and the same error stream. -/
structure SameSystem (files other : Files) : Prop where
  fixture?_eq : ∀ place, other.fixture? place = files.fixture? place
  links_eq : other.links = files.links
  isTold_eq : other.isTold = files.isTold

theorem SameSystem.refl (files : Files) : files.SameSystem files :=
  ⟨fun _ => rfl, rfl, rfl⟩

theorem SameSystem.trans {first second third : Files} (behind : first.SameSystem second)
    (further : second.SameSystem third) : first.SameSystem third where
  fixture?_eq place := (further.fixture?_eq place).trans (behind.fixture?_eq place)
  links_eq := further.links_eq.trans behind.links_eq
  isTold_eq := further.isTold_eq.trans behind.isTold_eq

theorem isDirectory_iff (files : Files) (place : List String) :
    files.isDirectory place = true ↔ files.fixture? place = some .directory := by
  rw [isDirectory, fixture?]
  rcases files.entry? place with _ | _ | _ | _ | _ <;> simp

theorem SameSystem.isDirectory_eq {files other : Files} (same : files.SameSystem other)
    (place : List String) : other.isDirectory place = files.isDirectory place := by
  rw [Bool.eq_iff_iff, isDirectory_iff, isDirectory_iff, same.fixture?_eq place]

/-- A path is followed through directories and links only. -/
theorem SameSystem.follow_eq {files other : Files} (same : files.SameSystem other)
    (place components : List String) :
    other.follow place components = files.follow place components := by
  induction components generalizing place with
  | nil => rfl
  | cons component rest inductionHypothesis =>
      simp only [follow, canonical, same.isDirectory_eq, same.links_eq, inductionHypothesis]

theorem SameSystem.place?_eq {files other : Files} (same : files.SameSystem other)
    (path : String) : other.place? path = files.place? path := by
  rw [place?, place?, same.follow_eq]

theorem SameSystem.panicCode_eq {files other : Files} (same : files.SameSystem other) :
    other.panicCode = files.panicCode := by
  rw [panicCode, panicCode, same.isTold_eq]

theorem entry?_of_fixture? {files : Files} {place : List String} {entry : Entry}
    (stands : files.fixture? place = some entry) : files.entry? place = some entry := by
  rw [fixture?] at stands
  rcases found : files.entry? place with _ | _ | _ | _ | _ <;> rw [found] at stands <;>
    first
      | exact stands
      | cases stands

theorem fixture?_output_iff (files : Files) (place : List String) :
    files.fixture? place = some .output ↔ files.entry? place = some .output := by
  constructor
  · exact entry?_of_fixture?
  · intro stands
    rw [fixture?, stands]

theorem sameSystem_put {files : Files} {place : List String}
    (free : files.fixture? place = none) (bytes : ByteArray) :
    files.SameSystem (files.put place (.file bytes)) := by
  refine ⟨fun asked => ?_, rfl, rfl⟩
  rw [fixture?, entry?_put]
  by_cases isAsked : asked = place
  · rw [if_pos isAsked, isAsked, free]
  · rw [if_neg isAsked, fixture?]

/-! ## Writing one text -/

/-- A path that leads to the standard output. -/
def LeadsToOutput (files : Files) (path : String) : Prop :=
  ∃ place, files.place? path = some place ∧ files.entry? place = some .output

theorem SameSystem.leadsToOutput_iff {files other : Files} (same : files.SameSystem other)
    (path : String) : other.LeadsToOutput path ↔ files.LeadsToOutput path := by
  simp only [LeadsToOutput, ← fixture?_output_iff, same.place?_eq, same.fixture?_eq]

/-- What can come of writing a text to a path. -/
inductive Writes (files : Files) (path text : String) : Bool × Files → Prop
  /-- The path leads nowhere, or the place cannot be written to. -/
  | refused : Writes files path text (false, files)
  /-- There is a file, or one is made. -/
  | stored (place : List String) (leads : files.place? path = some place)
      (free : files.fixture? place = none) : Writes files path text (files.store place text)
  /-- A device takes what there is room for and keeps nothing. -/
  | dropped (place : List String) (bytes : Option ByteArray)
      (leads : files.place? path = some place)
      (stands : files.entry? place = some (.device bytes)) :
      Writes files path text ((files.room place).holds text.toUTF8, files)
  | shown (leads : files.LeadsToOutput path) :
      Writes files path text
        (files.output.takes text, { files with output := files.output.rewrite text })

theorem writes_write (files : Files) (path text : String) :
    files.Writes path text (files.write path text) := by
  rw [write]
  cases leads : files.place? path with
  | none => exact .refused
  | some place =>
      change files.Writes path text
        (if files.isWritable place then files.writeAt place text else (false, files))
      split
      · rw [writeAt]
        rcases stands : files.entry? place with _ | bytes | _ | bytes | _
        case none =>
          change files.Writes path text
            (if files.isDirectory place.dropLast then files.store place text else (false, files))
          split
          · exact .stored place leads (by rw [fixture?, stands])
          · exact .refused
        case some.file => exact .stored place leads (by rw [fixture?, stands])
        case some.directory => exact .refused
        case some.device => exact .dropped place bytes leads stands
        case some.output => exact .shown ⟨place, leads, stands⟩
      · exact .refused

section

variable {files : Files} {path text : String}

theorem sameSystem_write (files : Files) (path text : String) :
    files.SameSystem (files.write path text).2 := by
  have outcome := files.writes_write path text
  generalize files.write path text = result at outcome ⊢
  cases outcome with
  | refused => exact .refl files
  | stored place leads free => exact sameSystem_put free _
  | dropped place bytes leads stands => exact .refl files
  | shown leads => exact ⟨fun _ => rfl, rfl, rfl⟩

/-- Only a text that is written to the standard output itself appears there. -/
theorem output_write (apart : ¬ files.LeadsToOutput path) :
    (files.write path text).2.output = files.output := by
  have outcome := files.writes_write path text
  generalize files.write path text = result at outcome ⊢
  cases outcome with
  | refused => rfl
  | stored place leads free => rfl
  | dropped place bytes leads stands => rfl
  | shown leads => exact absurd leads apart

end

/-! ## Writing texts one after another -/

theorem writeAll_of_taken {files : Files} {path text : String}
    (taken : (files.write path text).1 = true) (rest : List (String × String)) :
    files.writeAll ((path, text) :: rest) = (files.write path text).2.writeAll rest := by
  rw [writeAll]
  split
  next next outcome => rw [outcome]
  next next outcome =>
    rw [outcome] at taken
    cases taken

theorem writeAll_of_refused {files : Files} {path text : String}
    (refused : (files.write path text).1 = false) (rest : List (String × String)) :
    files.writeAll ((path, text) :: rest) = (false, (files.write path text).2) := by
  rw [writeAll]
  split
  next next outcome =>
    rw [outcome] at refused
    cases refused
  next next outcome => rw [outcome]

theorem sameSystem_writeAll (files : Files) (writes : List (String × String)) :
    files.SameSystem (files.writeAll writes).2 := by
  induction writes generalizing files with
  | nil => exact .refl files
  | cons write rest inductionHypothesis =>
      obtain ⟨path, text⟩ := write
      have first := files.sameSystem_write path text
      cases taken : (files.write path text).1 with
      | false =>
          rw [writeAll_of_refused taken]
          exact first
      | true =>
          rw [writeAll_of_taken taken]
          exact first.trans (inductionHypothesis _)

theorem output_writeAll {files : Files} {writes : List (String × String)}
    (apart : ∀ write ∈ writes, ¬ files.LeadsToOutput write.1) :
    (files.writeAll writes).2.output = files.output := by
  induction writes generalizing files with
  | nil => rfl
  | cons write rest inductionHypothesis =>
      obtain ⟨path, text⟩ := write
      obtain ⟨firstApart, restApart⟩ := List.forall_mem_cons.mp apart
      have first : (files.write path text).2.output = files.output := output_write firstApart
      cases taken : (files.write path text).1 with
      | false =>
          rw [writeAll_of_refused taken]
          exact first
      | true =>
          rw [writeAll_of_taken taken, inductionHypothesis, first]
          simp only [(files.sameSystem_write path text).leadsToOutput_iff]
          exact restApart

end Files

end CppModel.Command
