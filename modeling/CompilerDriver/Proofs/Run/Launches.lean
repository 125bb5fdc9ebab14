import CompilerDriver.Proofs.Run.History
import CompilerDriver.Proofs.Run.Whole

/-!
What a run launches and what it reports. The commands are fixed by the configuration alone: whatever
the runner answers, and in whatever order calls end, no command is skipped, repeated or changed by
what came of another one.
-/

namespace CompilerDriver.Run

variable {configuration : Configuration} {image : Path} {runner : Runner}

theorem Traced.owner {stay : Stay} {report : StepReport}
    (traced : Traced configuration runner stay (.finished report)) :
    report.operation = .compile stay.file ∧ report.source = some stay.file := by
  cases traced with
  | refused unnamed => exact ⟨rfl, rfl⟩
  | landed later named =>
      exact ⟨(close_operation _ _ _ _ later).1, (close_operation _ _ _ _ later).2.1⟩

theorem owners_of_traced {stays : List Stay} {reports : List StepReport}
    (traced : List.Forall₂ (Traced configuration runner) stays (reports.map .finished)) :
    reports.map (fun report => (report.operation, report.source)) =
      (stays.map Stay.file).map fun file => (Operation.compile file, some file) := by
  have paired := List.forall₂_map_right_iff.mp traced
  rw [List.map_map, ← List.forall₂_eq_eq_eq, List.forall₂_map_left_iff,
    List.forall₂_map_right_iff]
  refine List.Forall₂.flip (paired.imp fun stay report traced => ?_)
  exact Prod.ext traced.owner.1 traced.owner.2

theorem starts_commands (stays : List Stay) :
    (stays.filterMap Stay.start?).map (fun start => start.2.command) =
      ((stays.map Stay.call?).filterMap id).map Call.command := by
  rw [List.filterMap_map, Function.id_comp, ← starts_calls, List.map_map]
  rfl

variable (runner) in
/-- A batch reports each file once, in input order, and launches one command for each file whose
target has a name, in input order. -/
theorem compile_launches (imaged : configuration.compilerImage = some image)
    (several : 1 ≤ configuration.jobs) (world : World) :
    ∃ reports last,
      compile configuration runner world = (.ok reports, last) ∧
      reports.map (fun report => (report.operation, report.source)) =
        configuration.inputs.map (fun file => (Operation.compile file, some file)) ∧
      last.launched = world.launched ++ compileCommands configuration image configuration.inputs := by
  obtain ⟨last, reports, waiting, stays, ran, reached, complete⟩ :=
    compile_reached runner imaged world
  have waited : waiting = [] := complete.resolve_right (by omega)
  subst waited
  have files := reached.files
  have calls := reached.calls
  have starts := reached.starts
  have traced := reached.traced
  simp only [List.append_nil, plannedCalls_nil] at files calls
  simp only [Batch.slots, List.append_nil] at traced
  refine ⟨reports, last, ran, ?_, ?_⟩
  · rw [owners_of_traced traced, files]
  · rw [World.launched_eq_starts, starts, List.map_append, starts_commands, calls,
      plannedCalls_commands, ← World.launched_eq_starts]
    unfold batchWorld
    rw [World.launched_eq_starts, World.launched_eq_starts, World.log_starts]

def launcherWords (configuration : Configuration) (verb : String) (image : Path)
    (arguments : List Bytes) : List Bytes :=
  [configuration.toolchain.node.bytes, configuration.toolchain.launcher.bytes,
    Bytes.ofText verb, image.bytes] ++ arguments

def isNamed (configuration : Configuration) (file : Path) : Bool :=
  (Template.outputFor configuration.template file).isOk

theorem launcherCommand_words (configuration : Configuration) (verb : Verb) (image : Path)
    (arguments : List Bytes) :
    (configuration.toolchain.launcherCommand configuration.runtime verb image arguments).words =
      launcherWords configuration verb.word image arguments := by
  cases configuration.runtime
  rfl

theorem words_injective : Function.Injective Command.words := by
  rintro ⟨program, arguments⟩ ⟨other, others⟩ same
  cases same
  rfl

theorem compileCommands_words (configuration : Configuration) (image : Path) (files : List Path) :
    (compileCommands configuration image files).map Command.words =
      (files.filter (isNamed configuration)).map fun file =>
        launcherWords configuration "compile" image [file.bytes] := by
  unfold compileCommands
  induction files with
  | nil => rfl
  | cons file rest ih =>
      cases named : Template.outputFor configuration.template file with
      | error error =>
          rw [List.filterMap_cons, List.filter_cons_of_neg (by simp [isNamed, named, Except.isOk,
            Except.toBool])]
          simp only [named, ih]
      | ok target =>
          rw [List.filterMap_cons, List.filter_cons_of_pos (by simp [isNamed, named, Except.isOk,
            Except.toBool])]
          simp only [named, List.map_cons, ih]
          rw [compileCommand, launcherCommand_words]
          rfl

/-! ### Whole runs -/

/-- A run over input files and forms: one step for each file, and one more for the forms when there
are any. -/
structure CompiledRun (configuration : Configuration) (image : Path) (world last : World)
    (steps : List StepReport) : Prop where
  steps : steps.map (fun step => (step.operation, step.source)) =
    configuration.inputs.map (fun file => (Operation.compile file, some file)) ++
      if configuration.forms = [] then [] else [(Operation.evaluate, none)]
  launched : last.launched.map Command.words =
    world.launched.map Command.words ++
      (configuration.inputs.filter (isNamed configuration)).map
        (fun file => launcherWords configuration "compile" image [file.bytes]) ++
      if configuration.forms = [] then []
      else [launcherWords configuration "eval" image (configuration.forms.map Text.Utf8.encode)]

structure BootstrapRun (configuration : Configuration) (source : Path) (world last : World)
    (steps : List StepReport) : Prop where
  steps : steps.map (fun step => (step.operation, step.source)) =
    [(Operation.bootstrap, some source)]
  launched : last.launched.map Command.words =
    world.launched.map Command.words ++
      match Template.outputFor configuration.template source with
      | .ok target =>
          [[configuration.toolchain.host.bytes, configuration.toolchain.shim.bytes,
            target.argument.bytes, source.bytes]]
      | .error _ => []

structure SessionRun (configuration : Configuration) (image : Path) (world last : World)
    (steps : List StepReport) : Prop where
  steps : steps.map (fun step => (step.operation, step.source)) = [(Operation.interact, none)]
  launched : last.launched.map Command.words =
    world.launched.map Command.words ++ [launcherWords configuration "repl" image []]

variable (runner) in
theorem bootstrap_launches {source : Path}
    (sourced : configuration.bootstrapSource = some source) (world : World) :
    ∃ report last,
      bootstrap configuration runner (modeWorld .bootstrap world) = (.ok report, last) ∧
      BootstrapRun configuration source world last [report] := by
  cases named : Template.outputFor configuration.template source with
  | error error =>
      refine ⟨_, _, bootstrap_unnamed sourced named runner (modeWorld .bootstrap world), rfl, ?_⟩
      rw [modeWorld_launched, named, List.append_nil]
  | ok target =>
      obtain ⟨last, ran, called⟩ :=
        bootstrap_ran sourced named runner (modeWorld .bootstrap world)
      refine ⟨_, _, ran, ?_, ?_⟩
      · have kept := answered_operation configuration.warnings
          (runner (bootstrapCall configuration target source (modeWorld .bootstrap world))
            (modeWorld .bootstrap world).tree).answer
          { bootstrapBlank source with target := some target }
        rw [List.map_singleton, kept.1, kept.2.1]
        rfl
      · rw [called.launched, modeWorld_launched, List.map_append, named]
        rfl

variable (runner) in
theorem session_launches (imaged : configuration.compilerImage = some image) (world : World) :
    ∃ report last,
      interact configuration runner (modeWorld .interactive world) = (.ok report, last) ∧
      SessionRun configuration image world last [report] := by
  obtain ⟨last, ran, called⟩ := interact_ran imaged runner (modeWorld .interactive world)
  refine ⟨_, _, ran, ?_, ?_⟩
  · generalize (runner _ _).answer = answer
    cases answer with
    | error error => rfl
    | ok completion =>
        unfold sessionReport
        simp only [List.map_singleton]
        split <;> rfl
  · rw [called.launched, modeWorld_launched, List.map_append, List.map_singleton]
    unfold interactCall World.nextCall
    rw [launcherCommand_words]
    rfl

variable (runner) in
theorem files_launches (formless : configuration.forms = [])
    (imaged : configuration.compilerImage = some image) (several : 1 ≤ configuration.jobs)
    (world : World) :
    ∃ reports last,
      compile configuration runner (modeWorld (.compile false) world) = (.ok reports, last) ∧
      CompiledRun configuration image world last reports := by
  obtain ⟨reports, last, ran, owners, launched⟩ :=
    compile_launches runner imaged several (modeWorld (.compile false) world)
  refine ⟨reports, last, ran, ?_, ?_⟩
  · rw [owners, if_pos formless, List.append_nil]
  · rw [launched, modeWorld_launched, List.map_append, compileCommands_words, if_pos formless,
      List.append_nil]

variable (runner) in
theorem forms_launches (formed : configuration.forms ≠ [])
    (imaged : configuration.compilerImage = some image) (several : 1 ≤ configuration.jobs)
    (world : World) :
    ∃ reports next,
      compile configuration runner (modeWorld (.compile true) world) = (.ok reports, next) ∧
      ∃ report last, evaluate configuration runner next = (.ok report, last) ∧
        CompiledRun configuration image world last (reports ++ [report]) := by
  obtain ⟨reports, next, ran, owners, launched⟩ :=
    compile_launches runner imaged several (modeWorld (.compile true) world)
  obtain ⟨last, evaluated, called⟩ := evaluate_ran imaged runner next
  refine ⟨reports, next, ran, _, last, evaluated, ?_, ?_⟩
  · have kept := answered_operation configuration.warnings
      (runner (evaluateCall configuration image next) next.tree).answer evaluateBlank
    rw [List.map_append, owners, if_neg formed, List.map_singleton, kept.1, kept.2.1]
    rfl
  · rw [called.launched, launched, modeWorld_launched, List.map_append, List.map_append,
      compileCommands_words, if_neg formed, List.map_singleton]
    unfold evaluateCall World.nextCall evaluateCommand
    rw [launcherCommand_words]
    rfl

theorem whole_bootstrap_congr {source : Path}
    (sourced : configuration.bootstrapSource = some source)
    (bare : configuration.compilerImage = none) (inputs : List Path) (forms : List String)
    (interactive : Bool) (jobs : Nat) (world : World) :
    whole
        { configuration with
          inputs := inputs, forms := forms, interactive := interactive, jobs := jobs }
        runner world =
      whole configuration runner world := by
  have here := resolve_bootstrap sourced bare
  have there : Mode.resolve
      { configuration with
        inputs := inputs, forms := forms, interactive := interactive, jobs := jobs } =
        .ok .bootstrap := resolve_bootstrap sourced bare
  unfold whole
  rw [here, there]
  rfl

/-- The steps of a run and the commands it launches follow from its configuration, whatever the
runner answers. -/
theorem whole_launches (configuration : Configuration) (runner : Runner) (world : World)
    (summary : Summary) (several : 1 ≤ configuration.jobs)
    (ran : (whole configuration runner world).1 = .ok summary) :
    match summary.mode with
    | .compile evaluates =>
        evaluates = !configuration.forms.isEmpty ∧
        ∃ image, configuration.compilerImage = some image ∧
          CompiledRun configuration image world (whole configuration runner world).2 summary.steps
    | .bootstrap =>
        (∃ source, configuration.bootstrapSource = some source ∧
          BootstrapRun configuration source world (whole configuration runner world).2
            summary.steps) ∧
        ∀ inputs forms interactive jobs,
          whole
              { configuration with
                inputs := inputs, forms := forms, interactive := interactive, jobs := jobs }
              runner world =
            whole configuration runner world
    | .interactive =>
        ∃ image, configuration.compilerImage = some image ∧
          SessionRun configuration image world (whole configuration runner world).2
            summary.steps := by
  refine whole_cases ran ?_ ?_ ?_ ?_
  · intro source sourced bare
    obtain ⟨report, last, made, described⟩ := bootstrap_launches runner sourced world
    refine ⟨report, last, made, ⟨source, sourced, described⟩, ?_⟩
    intro inputs forms interactive jobs
    exact whole_bootstrap_congr sourced bare inputs forms interactive jobs world
  · intro image imaged _ _
    obtain ⟨report, last, made, described⟩ := session_launches runner imaged world
    exact ⟨report, last, made, image, imaged, described⟩
  · intro image imaged formless _
    obtain ⟨reports, last, made, described⟩ :=
      files_launches runner formless imaged several world
    exact ⟨reports, last, made, by simp [formless], image, imaged, described⟩
  · intro image imaged formed
    obtain ⟨reports, next, made, report, last, evaluated, described⟩ :=
      forms_launches runner formed imaged several world
    exact ⟨reports, next, made, report, last, evaluated, by simp [formed], image, imaged,
      described⟩

def twoFilesImage : Path :=
  ⟨[105]⟩

def twoFiles : Configuration :=
  { compilerImage := some twoFilesImage
    forms := ["x"]
    template := "-"
    inputs := [⟨[46, 46]⟩, ⟨[97]⟩]
    jobs := 2
    toolchain := .standard ⟨[47]⟩ }

/-- A runner whose calls all fail, each one later than the one before. -/
def staggered : Runner := fun call tree =>
  { duration := call.index, answer := .ok { status := 1 }, tree := tree }

theorem twoFiles_launches :
    ∃ summary, (whole twoFiles staggered { tree := {} }).1 = .ok summary ∧
      summary.mode = .compile true ∧
      CompiledRun twoFiles twoFilesImage { tree := {} }
        (whole twoFiles staggered { tree := {} }).2 summary.steps := by
  refine ⟨_, rfl, rfl, ?_⟩
  obtain ⟨_, image, imaged, described⟩ :=
    whole_launches twoFiles staggered { tree := {} } _ (by decide) rfl
  cases imaged
  exact described

end CompilerDriver.Run
