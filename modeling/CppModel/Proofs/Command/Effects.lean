import CppModel.Proofs.Command.Writing
import CppModel.Proofs.Rendering.Forms
import CppModel.Proofs.Validation.Outcomes

/-!
# Commands and their effects

A model that can be rendered is one that is valid and has every body that its source
needs.  Whether it can be is settled in memory, and checking a model settles it in the
same way as rendering it: what one of them refuses, the other refuses too, and neither
has had any effect by then.

After that a command fails only if a file cannot be written or if the standard output
refuses what is to be printed.  Printing is the last thing that is done, so a file that
cannot be written leaves the standard output as it was, unless a text has been sent there
by a name of its own.
-/

namespace CppModel

/-! ## Complete models -/

/-- The model is valid, and every function that its source has to define has a body. -/
def Model.IsComplete (model : Model) : Prop :=
  model.build.1.validate model.build.2 = .ok () ∧
    ∀ item ∈ model.definables, item.isImplemented = true

namespace Command

theorem exists_eq_ok_iff {Value : Type} (outcome : Except Error Value) :
    (∃ value, outcome = .ok value) ↔ failure? outcome = none := by
  cases outcome <;> simp

theorem failure?_renderTexts (model : Model) :
    failure? (renderTexts model) =
      (failure? (model.build.1.header model.build.2)).or
        (failure? (model.build.1.source model.build.2)) := by
  have unfolded : renderTexts model = (do
      let header ← model.build.1.header model.build.2
      let source ← model.build.1.source model.build.2
      pure ⟨header.textAt (Sink.empty .cpp), source.textAt (Sink.empty .cpp)⟩) :=
    rfl
  rw [unfolded]
  cases model.build.1.header model.build.2 with
  | error error => rfl
  | ok header =>
      cases model.build.1.source model.build.2 with
      | error error => rfl
      | ok source => rfl

/-- The two texts of a model can be rendered exactly if it is complete. -/
theorem renderTexts_eq_ok_iff (model : Model) :
    (∃ texts, renderTexts model = .ok texts) ↔ model.IsComplete := by
  rw [exists_eq_ok_iff, failure?_renderTexts, Option.or_eq_none_iff, Model.IsComplete]
  cases checked : model.build.1.validate model.build.2 with
  | error error =>
      have refused := model.build.1.heeds_rendering model.build.2 .header error checked
      have headerRefused : model.build.1.header model.build.2 = .error error := refused
      simp [headerRefused]
  | ok passed =>
      have headerRendered :
          failure? (model.build.1.rendering model.build.2 .header) = none :=
        TranslationUnit.failure?_header checked
      have sourceRendered := Model.ends_source_ok_iff checked
      rw [(model.build.1.carriesOut_write model.build.2 .source).ends_ok_iff] at sourceRendered
      constructor
      · rintro ⟨_, rendered⟩
        exact ⟨rfl, sourceRendered.mp rendered⟩
      · rintro ⟨_, implemented⟩
        exact ⟨headerRendered, sourceRendered.mpr implemented⟩

/-! ## Loading and planning -/

/-- The bytes of a file, which may be missing, are those of a complete model. -/
def IsReady (path : String) (bytes : Option ByteArray) : Prop :=
  ∃ model, Model.ofBytes path bytes = .ok model ∧ model.IsComplete

/-- The texts of the model that a file holds. -/
def loadTexts (path : String) (bytes : Option ByteArray) : Except Error Texts := do
  renderTexts (← Model.ofBytes path bytes)

theorem loadTexts_eq_ok_iff (path : String) (bytes : Option ByteArray) :
    (∃ texts, loadTexts path bytes = .ok texts) ↔ IsReady path bytes := by
  rw [loadTexts, IsReady]
  cases loaded : Model.ofBytes path bytes with
  | error error => simp [bind, Except.bind]
  | ok model =>
      simp only [Except.ok.injEq, exists_eq_left']
      exact renderTexts_eq_ok_iff model

/-! ## Running a command -/

theorem Files.panicCode_ne_zero (files : Files) : files.panicCode ≠ 0 := by
  rw [panicCode]
  split <;> decide

theorem Files.refusalCode_ne_zero (files : Files) : files.refusalCode ≠ 0 := by
  rw [refusalCode]
  split
  · exact Nat.one_ne_zero
  · exact files.panicCode_ne_zero

theorem Files.exitCode_print_iff (files : Files) (text : String) :
    (files.print text).exitCode = 0 ↔ files.output.takes text = true := by
  change (if files.output.takes text then 0 else files.panicCode) = 0 ↔ _
  split
  next taken => exact iff_of_true rfl taken
  next refused => exact iff_of_false files.panicCode_ne_zero refused

section

variable {files : Files} {path : String}

theorem run_of_planned {action : Action} {plan : Plan} (named : action.modelPath? = some path)
    (planned : action.plan (files.read? path) = .ok plan) :
    action.run files = plan.carryOut files := by
  rw [Action.run, named, Option.bind_some, planned]

/-- A command that cannot be planned has no effect. -/
theorem run_of_refused {action : Action} {error : Error} (named : action.modelPath? = some path)
    (refused : action.plan (files.read? path) = .error error) :
    action.run files = ⟨files.refusalCode, files⟩ := by
  rw [Action.run, named, Option.bind_some, refused]

/-- Checking a complete model does nothing but print its summary. -/
theorem run_check_of_complete {model : Model}
    (loaded : Model.ofBytes path (files.read? path) = .ok model) (complete : model.IsComplete) :
    (Action.check path).run files = files.print (summary path model) := by
  rcases (renderTexts_eq_ok_iff model).mpr complete with ⟨texts, rendered⟩
  have planned :
      (Action.check path).plan (files.read? path) = .ok ⟨[], summary path model⟩ := by
    rw [Action.plan, loaded]
    change (renderTexts model >>= fun _ => pure (Plan.mk [] (summary path model))) = _
    rw [rendered]
    rfl
  rw [run_of_planned rfl planned]
  rfl

theorem run_check_of_not_ready (unready : ¬ IsReady path (files.read? path)) :
    (Action.check path).run files = ⟨files.refusalCode, files⟩ := by
  cases loaded : Model.ofBytes path (files.read? path) with
  | error error =>
      have refused : (Action.check path).plan (files.read? path) = .error error := by
        rw [Action.plan, loaded]
        rfl
      exact run_of_refused rfl refused
  | ok model =>
      cases rendered : renderTexts model with
      | error error =>
          have refused : (Action.check path).plan (files.read? path) = .error error := by
            rw [Action.plan, loaded]
            simp only [bind, Except.bind, rendered]
          exact run_of_refused rfl refused
      | ok texts =>
          have complete := (renderTexts_eq_ok_iff model).mp ⟨texts, rendered⟩
          exact absurd ⟨model, loaded, complete⟩ unready

theorem plan_render (header source : Option String) (bytes : Option ByteArray) :
    (Action.render path header source).plan bytes =
      (loadTexts path bytes).map (Plan.ofTexts header source) := by
  rw [Action.plan, loadTexts]
  cases Model.ofBytes path bytes with
  | error error => rfl
  | ok model =>
      change (renderTexts model >>= fun texts => pure (Plan.ofTexts header source texts)) =
        (renderTexts model).map (Plan.ofTexts header source)
      cases renderTexts model <;> rfl

theorem run_render_of_ready {texts : Texts}
    (loaded : loadTexts path (files.read? path) = .ok texts) (header source : Option String) :
    (Action.render path header source).run files =
      (Plan.ofTexts header source texts).carryOut files := by
  have planned : (Action.render path header source).plan (files.read? path) =
      .ok (Plan.ofTexts header source texts) := by
    rw [plan_render, loaded]
    rfl
  exact run_of_planned rfl planned

theorem run_render_of_not_ready (unready : ¬ IsReady path (files.read? path))
    (header source : Option String) :
    (Action.render path header source).run files = ⟨files.refusalCode, files⟩ := by
  cases loaded : loadTexts path (files.read? path) with
  | error error =>
      have refused : (Action.render path header source).plan (files.read? path) = .error error := by
        rw [plan_render, loaded]
        rfl
      exact run_of_refused rfl refused
  | ok texts => exact absurd ((loadTexts_eq_ok_iff path _).mp ⟨texts, loaded⟩) unready

end

/-! ## What is printed -/

/-- The text is empty or ends a line. -/
def EndsLine (text : String) : Prop :=
  text ≠ "" → ∃ front, text = front ++ "\n"

theorem endsLine_renderTexts {model : Model} {texts : Texts}
    (rendered : renderTexts model = .ok texts) : EndsLine texts.header ∧ EndsLine texts.source := by
  obtain ⟨header, isHeader, further⟩ := (Rendering.bind_eq_ok_iff _ _ _).mp rendered
  obtain ⟨source, isSource, ⟨⟩⟩ := (Rendering.bind_eq_ok_iff _ _ _).mp further
  have ends : ∀ side script, model.build.1.rendering model.build.2 side = .ok script →
      EndsLine (script.textAt (Sink.empty .cpp)) := by
    intro side script isScript written
    refine ((TranslationUnit.hasShape_rendering _ _ side) script isScript).writesLines ?_ _
    rintro rfl
    exact written (Script.textAt_nil _)
  exact ⟨ends .header header isHeader, ends .source source isSource⟩

theorem endsLine_ofTexts {texts : Texts} (headerEnds : EndsLine texts.header)
    (sourceEnds : EndsLine texts.source) (header source : Option String) :
    EndsLine (Plan.ofTexts header source texts).output := by
  intro written
  apply Script.endsLine_intercalate
  · intro noText
    rw [Plan.ofTexts, noText] at written
    exact written rfl
  · intro text listed
    rcases List.mem_append.mp listed with isPrinted | isPrinted
    all_goals
      rw [Plan.printed, List.mem_ite_nil_right, List.mem_singleton] at isPrinted
      obtain ⟨isNamed, rfl⟩ := isPrinted
      simp only [Bool.and_eq_true, Bool.not_eq_eq_eq_not, Bool.not_true,
        String.isEmpty_eq_false_iff] at isNamed
    · exact headerEnds isNamed.2
    · exact sourceEnds isNamed.2

/-- What a command prints is empty or ends a line, so that nothing of it is kept back until
the program ends. -/
theorem Action.endsLine_plan {action : Action} {bytes : Option ByteArray} {plan : Plan}
    (planned : action.plan bytes = .ok plan) : EndsLine plan.output := by
  cases action with
  | completions shell =>
      cases planned
      intro _
      refine ⟨String.ofList shell.script.toList.dropLast, ?_⟩
      cases shell <;> decide +kernel
  | check path =>
      obtain ⟨model, _, further⟩ := (Rendering.bind_eq_ok_iff _ _ _).mp planned
      obtain ⟨texts, _, ⟨⟩⟩ := (Rendering.bind_eq_ok_iff _ _ _).mp further
      exact fun _ => ⟨_, rfl⟩
  | render path header source =>
      obtain ⟨model, _, further⟩ := (Rendering.bind_eq_ok_iff _ _ _).mp planned
      obtain ⟨texts, rendered, ⟨⟩⟩ := (Rendering.bind_eq_ok_iff _ _ _).mp further
      obtain ⟨headerEnds, sourceEnds⟩ := endsLine_renderTexts rendered
      exact endsLine_ofTexts headerEnds sourceEnds header source

/-! ## Carrying out a plan -/

namespace Plan

theorem carryOut_of_written {plan : Plan} {files : Files}
    (succeeded : (files.writeAll plan.writes).1 = true) :
    plan.carryOut files = (files.writeAll plan.writes).2.print plan.output := by
  rw [carryOut]
  split
  next written outcome => rw [outcome]
  next written outcome =>
    rw [outcome] at succeeded
    cases succeeded

theorem carryOut_of_stopped {plan : Plan} {files : Files}
    (stopped : (files.writeAll plan.writes).1 = false) :
    plan.carryOut files = ⟨1, (files.writeAll plan.writes).2⟩ := by
  rw [carryOut]
  split
  next written outcome =>
    rw [outcome] at stopped
    cases stopped
  next written outcome => rw [outcome]

/-- A path that a text is written to is the one for the header or the one for the source. -/
theorem named_of_mem_writes {header source : Option String} {texts : Texts}
    {write : String × String} (listed : write ∈ (ofTexts header source texts).writes) :
    header = some write.1 ∨ source = some write.1 := by
  cases header <;> cases source <;> simp [ofTexts, fileWrites] at listed ⊢ <;> grind

/-- If a plan fails and no path leads to the standard output, then either nothing has
appeared there, or it has refused what was to be printed. -/
theorem output_of_failed {plan : Plan} {files : Files}
    (failed : (plan.carryOut files).exitCode ≠ 0)
    (apart : ∀ write ∈ plan.writes, ¬ files.LeadsToOutput write.1) :
    (plan.carryOut files).files.output = files.output ∨
      files.output.takes plan.output = false ∧
        (plan.carryOut files).exitCode = files.panicCode ∧
          (plan.carryOut files).files.output = files.output.print plan.output := by
  have kept := Files.output_writeAll apart
  cases succeeded : (files.writeAll plan.writes).1 with
  | false =>
      rw [carryOut_of_stopped succeeded]
      exact .inl kept
  | true =>
      rw [carryOut_of_written succeeded] at failed ⊢
      rw [ne_eq, Files.exitCode_print_iff, kept, Bool.not_eq_true] at failed
      refine .inr ⟨failed, ?_, ?_⟩
      · have same := (files.sameSystem_writeAll plan.writes).panicCode_eq
        simp only [Files.print, kept, failed, same, Bool.false_eq_true, if_false]
      · rw [Files.print, kept]

end Plan

/-! ## What checking tells of rendering -/

/-- What the outcome of checking a model tells of the outcome of rendering it. -/
structure Settles (files : Files) (path : String) (level header source : Option String)
    (checked rendered : Outcome) : Prop where
  /-- Checking succeeds exactly if the file holds a model that is complete, and the streams
  take what is told and printed. -/
  succeeds_iff : checked.exitCode = 0 ↔ files.announces level = true ∧
    ∃ model, Model.ofBytes path (files.read? path) = .ok model ∧ model.IsComplete ∧
      files.output.takes (summary path model) = true
  /-- Exactly if the model is complete, rendering it goes on to writing its texts. -/
  proceeds_iff : files.announces level = true → (IsReady path (files.read? path) ↔
    ∃ texts, loadTexts path (files.read? path) = .ok texts ∧
      rendered = (Plan.ofTexts header source texts).carryOut files)
  /-- Checking a complete model does nothing but print its summary. -/
  summarized : files.announces level = true →
    ∀ model, Model.ofBytes path (files.read? path) = .ok model → model.IsComplete →
      checked = files.print (summary path model)
  /-- A model that is not complete is refused by both, and nothing has happened. -/
  refused : files.announces level = true → ¬ IsReady path (files.read? path) →
    checked = ⟨files.refusalCode, files⟩ ∧ rendered = ⟨files.refusalCode, files⟩
  /-- Without the notice about the log level nothing happens at all. -/
  unannounced : files.announces level = false →
    checked = ⟨files.panicCode, files⟩ ∧ rendered = ⟨files.panicCode, files⟩
  /-- A rendering that fails leaves the standard output as it was, unless a path leads there
  or the standard output has refused the texts without a path. -/
  silent : rendered.exitCode ≠ 0 → rendered.files.output = files.output ∨
    (∃ target, (header = some target ∨ source = some target) ∧ files.LeadsToOutput target) ∨
      ∃ texts, loadTexts path (files.read? path) = .ok texts ∧
        files.output.takes (Plan.ofTexts header source texts).output = false ∧
          rendered.exitCode = files.panicCode ∧
            rendered.files.output = files.output.print (Plan.ofTexts header source texts).output

section

variable {files : Files} {path : String} {level header source : Option String}

theorem settles_of_unannounced (unannounced : files.announces level = false) :
    Settles files path level header source ⟨files.panicCode, files⟩ ⟨files.panicCode, files⟩ := by
  have fails := files.panicCode_ne_zero
  constructor
  case succeeds_iff => simp [unannounced, fails]
  case unannounced => exact fun _ => ⟨rfl, rfl⟩
  case silent => exact fun _ => .inl rfl
  all_goals simp [unannounced]

theorem settles_of_not_ready (announced : files.announces level = true)
    (unready : ¬ IsReady path (files.read? path)) :
    Settles files path level header source
      ⟨files.refusalCode, files⟩ ⟨files.refusalCode, files⟩ := by
  constructor
  case succeeds_iff =>
    refine iff_of_false files.refusalCode_ne_zero ?_
    rintro ⟨_, model, isModel, complete, _⟩
    exact unready ⟨model, isModel, complete⟩
  case proceeds_iff =>
    refine fun _ => iff_of_false unready ?_
    rintro ⟨texts, loaded, _⟩
    exact unready ((loadTexts_eq_ok_iff path (files.read? path)).mp ⟨texts, loaded⟩)
  case summarized =>
    exact fun _ model isModel complete => absurd ⟨model, isModel, complete⟩ unready
  case refused => exact fun _ _ => ⟨rfl, rfl⟩
  case unannounced => simp [announced]
  case silent => exact fun _ => .inl rfl

theorem settles_of_ready {model : Model} {texts : Texts}
    (announced : files.announces level = true)
    (isModel : Model.ofBytes path (files.read? path) = .ok model) (complete : model.IsComplete)
    (loaded : loadTexts path (files.read? path) = .ok texts) :
    Settles files path level header source (files.print (summary path model))
      ((Plan.ofTexts header source texts).carryOut files) := by
  constructor
  case succeeds_iff =>
    rw [Files.exitCode_print_iff]
    constructor
    · exact fun taken => ⟨announced, model, isModel, complete, taken⟩
    · rintro ⟨_, other, isOther, _, taken⟩
      cases isModel.symm.trans isOther
      exact taken
  case proceeds_iff =>
    exact fun _ => iff_of_true ⟨model, isModel, complete⟩ ⟨texts, loaded, rfl⟩
  case summarized =>
    intro _ other isOther _
    cases isModel.symm.trans isOther
    rfl
  case refused => exact fun _ unready => absurd ⟨model, isModel, complete⟩ unready
  case unannounced => simp [announced]
  case silent =>
    intro failed
    by_cases apart : ∀ write ∈ (Plan.ofTexts header source texts).writes,
        ¬ files.LeadsToOutput write.1
    · rcases Plan.output_of_failed failed apart with kept | refused
      · exact .inl kept
      · exact .inr (.inr ⟨texts, loaded, refused⟩)
    · push Not at apart
      obtain ⟨write, listed, leads⟩ := apart
      exact .inr (.inl ⟨write.1, Plan.named_of_mem_writes listed, leads⟩)

theorem run_command_of_announced (announced : files.announces level = true) (action : Action) :
    (Request.command level action).run files = action.run files := by
  rw [Request.run, if_pos announced]

theorem run_command_of_unannounced (unannounced : files.announces level = false)
    (action : Action) :
    (Request.command level action).run files = ⟨files.panicCode, files⟩ := by
  rw [Request.run, unannounced]
  rfl

end

/-- Checking and rendering agree, and a model that is refused has no effect.

Checking succeeds exactly if the file holds a model that is valid and has every body that
its source needs, at whatever depth, and the standard output takes the summary; and exactly
if the file holds such a model, its two texts are rendered and written to where they are to
go.  Otherwise both commands fail with the exit code 1, or that of a panic if the error
stream refuses the report.  They print nothing and leave every file as it is.

A rendering that fails has printed nothing, unless a path leads to the standard output
itself, or the standard output has refused what was to be printed.  A front of that may have
been given to it. -/
theorem check_settles_rendering (files : Files) (path : String) (level : Option String)
    (header source : Option String) :
    Settles files path level header source
      ((Request.command level (.check path)).run files)
      ((Request.command level (.render path header source)).run files) := by
  cases announced : files.announces level with
  | false =>
      rw [run_command_of_unannounced announced, run_command_of_unannounced announced]
      exact settles_of_unannounced announced
  | true =>
      rw [run_command_of_announced announced, run_command_of_announced announced]
      by_cases ready : IsReady path (files.read? path)
      · obtain ⟨texts, loaded⟩ := (loadTexts_eq_ok_iff path (files.read? path)).mpr ready
        obtain ⟨model, isModel, complete⟩ := ready
        rw [run_check_of_complete isModel complete, run_render_of_ready loaded]
        exact settles_of_ready announced isModel complete loaded
      · rw [run_check_of_not_ready ready, run_render_of_not_ready ready]
        exact settles_of_not_ready announced ready

/-- A working directory with one model: a class without members. -/
def shelf : Files :=
  { entries := (Files.workplace ++ ["m.toml"], .file "[[classes]]\nname='A'\n".toUTF8) :: system }

/-- A header that is sent to the standard output stays there although the source cannot be
written, and a complete model cannot be checked if there is no room for its summary. -/
theorem rendering_prints_and_checking_fails :
    (¬ ∀ (files : Files) (path : String) (level header source : Option String),
      ((Request.command level (.render path header source)).run files).exitCode ≠ 0 →
        ((Request.command level (.render path header source)).run files).files.output =
          files.output) ∧
      ¬ ∀ (files : Files) (path : String) (level : Option String),
        IsReady path (files.read? path) →
          ((Request.command level (.check path)).run files).exitCode = 0 := by
  constructor
  · intro silent
    have failed : ((Request.command none
        (.render "m.toml" (some "/dev/stdout") (some "/no/x"))).run shelf).exitCode ≠ 0 := by
      decide +kernel
    have printed : ((Request.command none
        (.render "m.toml" (some "/dev/stdout") (some "/no/x"))).run shelf).files.output.bytes ≠
          shelf.output.bytes := by
      decide +kernel
    exact printed (congrArg Stream.bytes
      (silent shelf "m.toml" none (some "/dev/stdout") (some "/no/x") failed))
  · intro accepted
    have refused : ((Request.command none (.check "m.toml")).run
        { shelf with output := { room := .atMost 0 } }).exitCode = 101 := by
      decide +kernel
    have rendered : (loadTexts "m.toml" (shelf.read? "m.toml")).toOption.isSome = true := by
      decide +kernel
    have ready : IsReady "m.toml" (shelf.read? "m.toml") := by
      rw [← loadTexts_eq_ok_iff, exists_eq_ok_iff]
      cases loaded : loadTexts "m.toml" (shelf.read? "m.toml") with
      | error error =>
          rw [loaded] at rendered
          cases rendered
      | ok texts => rfl
    rw [accepted { shelf with output := { room := .atMost 0 } } "m.toml" none ready] at refused
    cases refused

end Command

end CppModel
