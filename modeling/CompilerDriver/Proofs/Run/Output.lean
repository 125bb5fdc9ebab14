import CompilerDriver.Proofs.Run.Conclusion
import CompilerDriver.Proofs.Run.Independence

/-!
What a run puts on standard output. Every step adds what its process printed, in the order of the
steps and not of the ends of calls, unless it failed or its product went to a file. So the output is
fixed by the answers to the commands of the run: those of its files in input order, and behind them
that of the evaluation.
-/

namespace CompilerDriver

/-- What a step adds to standard output, by what came of it and where its product goes. -/
def StepReport.printed (step : StepReport) : Bytes :=
  if step.outcome.isFailure = false ∧ step.target = some .standardOutput then
    (step.completion.map Completion.stdout).getD []
  else []

theorem StepReport.printed_of_failure {step : StepReport} (failed : step.outcome.isFailure = true) :
    step.printed = [] := by
  unfold printed
  rw [if_neg]
  rintro ⟨kept, _⟩
  rw [failed] at kept
  cases kept

theorem StepReport.printed_of_elsewhere {step : StepReport}
    (elsewhere : step.target ≠ some .standardOutput) : step.printed = [] :=
  if_neg fun both => elsewhere both.2

theorem StepReport.payload?_getD (step : StepReport) : step.payload?.getD [] = step.printed := by
  unfold payload? printed
  cases step.target with
  | none => simp
  | some target =>
      cases target with
      | file path => simp
      | standardOutput =>
          cases step.completion with
          | none => simp
          | some completion => cases failed : step.outcome.isFailure <;> simp

namespace Summary

theorem output_eq (summary : Summary) : summary.output = summary.steps.flatMap StepReport.printed := by
  unfold output payloads
  induction summary.steps with
  | nil => rfl
  | cons step rest ih =>
      have head := step.payload?_getD
      rw [List.filterMap_cons, List.flatMap_cons, ← ih, ← head]
      cases step.payload? with
      | none => rfl
      | some payload => rfl

/-- An output with little room takes what fits, in order, and fails exactly when that is not all. -/
theorem writeWithin_eq (room : Nat) (payloads : List Bytes) :
    writeWithin room payloads =
      (payloads.flatten.take room,
        if payloads.flatten.length ≤ room then none
        else some (.described "failed to write whole buffer")) := by
  induction payloads generalizing room with
  | nil => simp [writeWithin]
  | cons payload rest ih =>
      rw [writeWithin, List.flatten_cons, List.length_append, List.take_append]
      by_cases fits : payload.length ≤ room
      · have whole : payload.take room = payload := List.take_of_length_le fits
        have left : rest.flatten.length ≤ room - payload.length ↔
            payload.length + rest.flatten.length ≤ room := by omega
        rw [if_pos fits, ih, whole]
        simp only [left]
      · have full : room - payload.length = 0 := by omega
        have beyond : ¬payload.length + rest.flatten.length ≤ room := by omega
        rw [if_neg fits, if_neg beyond, full, List.take_zero, List.append_nil]

end Summary

namespace Run

/-- What a command prints whose step is not failed by its answer. -/
def accepted (policy : WarningPolicy) : Except RunError Completion → Bytes
  | .ok completion =>
      if completion.status = 0 ∧ (completion.stderr = [] ∨ policy = .surface) then
        completion.stdout
      else []
  | .error _ => []

theorem printed_answered {report : StepReport} {target : Target}
    (targeted : report.target = some target) (policy : WarningPolicy)
    (answer : Except RunError Completion) :
    (report.answered policy answer).printed =
      if target = .standardOutput then accepted policy answer else [] := by
  have aim := (answered_operation policy answer report).2.2.trans targeted
  by_cases standard : target = .standardOutput
  · rw [if_pos standard]
    cases answer with
    | error error => exact StepReport.printed_of_failure rfl
    | ok completion =>
        have passes := classify_isFailure report.operation policy completion
        rw [standard] at aim
        unfold StepReport.printed accepted
        rw [aim]
        simp only [StepReport.answered, passes, and_true, Option.map_some, Option.getD_some]
  · rw [if_neg standard]
    refine StepReport.printed_of_elsewhere ?_
    rw [aim]
    exact fun same => standard (Option.some.inj same)

variable {configuration : Configuration} {image : Path} {runner : Runner} {first : World}
  {answer : Command → Except RunError Completion}

theorem standard_iff {template : String} {source : Path} {target : Target}
    (named : Template.outputFor template source = .ok target) :
    target = .standardOutput ↔ template = Template.standardOutput := by
  obtain ⟨name, _, resolved⟩ := Template.outputFor_ok_iff.mp named
  have told : Template.resolve template name = .ok .standardOutput ↔
      template = Template.standardOutput := Template.resolve_standardOutput_iff
  rw [← told, resolved, Except.ok.injEq]

theorem isNamed_of_ok {source : Path} {target : Target}
    (named : Template.outputFor configuration.template source = .ok target) :
    isNamed configuration source = true := by
  unfold isNamed
  rw [named]
  rfl

theorem isNamed_of_error {source : Path} {error : TemplateError}
    (unnamed : Template.outputFor configuration.template source = .error error) :
    isNamed configuration source = false := by
  unfold isNamed
  rw [unnamed]
  rfl

/-- What is printed by a process whose product is named after a source. Without a stem there is no
process, and a product that goes to a file is not printed. -/
def bound (configuration : Configuration) (source : Path) (printed : Bytes) : Bytes :=
  if configuration.template = Template.standardOutput ∧ isNamed configuration source = true then
    printed
  else []

theorem bound_of_unnamed {source : Path} {error : TemplateError}
    (unnamed : Template.outputFor configuration.template source = .error error) (printed : Bytes) :
    bound configuration source printed = [] := by
  have absent : isNamed configuration source = false := isNamed_of_error unnamed
  unfold bound
  rw [if_neg]
  rintro ⟨_, present⟩
  rw [absent] at present
  cases present

theorem bound_of_named {source : Path} {target : Target}
    (named : Template.outputFor configuration.template source = .ok target) (printed : Bytes) :
    bound configuration source printed = if target = .standardOutput then printed else [] := by
  have present : isNamed configuration source = true := isNamed_of_ok named
  have standard := standard_iff named
  unfold bound
  simp only [present, and_true, standard]

def moduleOutput (configuration : Configuration) (image : Path)
    (answer : Command → Except RunError Completion) (file : Path) : Bytes :=
  bound configuration file
    (accepted configuration.warnings (answer (compileCommand configuration image file)))

theorem Reached.commanded {batch : Batch} {stays : List Stay}
    (reached : Reached configuration image runner first batch stays) :
    ∀ stay ∈ stays, ∀ call ∈ stay.call?, call.command = compileCommand configuration image stay.file := by
  induction reached with
  | start =>
      intro stay member
      cases member
  | leave before ih => exact ih
  | refuse before unsettled room unnamed ih =>
      intro stay member call called
      rcases List.mem_append.mp member with old | new
      · exact ih stay old call called
      · rw [List.mem_singleton.mp new] at called
        cases called
  | launch before unsettled room named ih =>
      intro stay member call called
      rcases List.mem_append.mp member with old | new
      · exact ih stay old call called
      · rw [List.mem_singleton.mp new] at called ⊢
        cases called
        rfl
  | land before due ih => exact ih

theorem Traced.printed (constant : ∀ call tree, (runner call tree).answer = answer call.command)
    {stay : Stay} {report : StepReport}
    (traced : Traced configuration runner stay (.finished report))
    (commanded : ∀ call ∈ stay.call?, call.command = compileCommand configuration image stay.file) :
    report.printed = moduleOutput configuration image answer stay.file := by
  unfold moduleOutput
  cases traced with
  | @refused file time error unnamed =>
      rw [bound_of_unnamed unnamed]
      exact StepReport.printed_of_failure rfl
  | @landed file time call tree target later named =>
      have command : call.command = compileCommand configuration image file := commanded call rfl
      rw [bound_of_named named, ← command, ← constant call tree]
      rcases close_report configuration file target (runner call tree).answer later with
        same | ⟨path, bytes, cause, produced, same⟩
      · rw [same]
        exact printed_answered rfl configuration.warnings _
      · have goal := (product?_eq_some produced).1
        rw [same, goal, if_neg Target.noConfusion]
        exact StepReport.printed_of_failure rfl

theorem printed_of_traced (constant : ∀ call tree, (runner call tree).answer = answer call.command)
    {stays : List Stay} {reports : List StepReport}
    (traced : List.Forall₂ (Traced configuration runner) stays (reports.map .finished))
    (commanded : ∀ stay ∈ stays, ∀ call ∈ stay.call?,
      call.command = compileCommand configuration image stay.file) :
    reports.flatMap StepReport.printed =
      (stays.map Stay.file).flatMap (moduleOutput configuration image answer) := by
  have paired := List.forall₂_map_right_iff.mp traced
  clear traced
  induction paired with
  | nil => rfl
  | @cons stay report stays reports head tail ih =>
      rw [List.forall_mem_cons] at commanded
      have here := head.printed constant commanded.1
      have rest := ih commanded.2
      rw [List.map_cons, List.flatMap_cons, List.flatMap_cons, here, rest]

theorem compile_printed (constant : ∀ call tree, (runner call tree).answer = answer call.command)
    (imaged : configuration.compilerImage = some image) (several : 1 ≤ configuration.jobs)
    (world : World) :
    ∃ reports last,
      compile configuration runner world = (.ok reports, last) ∧
      reports.flatMap StepReport.printed =
        configuration.inputs.flatMap (moduleOutput configuration image answer) := by
  obtain ⟨last, reports, waiting, stays, ran, reached, complete⟩ :=
    compile_reached runner imaged world
  have waited : waiting = [] := complete.resolve_right (by omega)
  subst waited
  have files := reached.files
  have traced := reached.traced
  simp only [List.append_nil] at files
  simp only [Batch.slots, List.append_nil] at traced
  refine ⟨reports, last, ran, ?_⟩
  rw [← files]
  exact printed_of_traced constant traced reached.commanded

/-! ### Whole runs -/

/-- What a bootstrap adds to standard output: the image, when no file is named for it. -/
def bootstrapOutput (configuration : Configuration) (source : Path)
    (answer : Command → Except RunError Completion) : Bytes :=
  bound configuration source
    (accepted configuration.warnings
      (answer (configuration.toolchain.bootstrapCommand .standardOutput source)))

def evaluationOutput (configuration : Configuration) (image : Path)
    (answer : Command → Except RunError Completion) : Bytes :=
  if configuration.forms = [] then []
  else accepted configuration.warnings (answer (evaluateCommand configuration image))

theorem sessionReport_printed (answer : Except RunError Completion) :
    (sessionReport answer).printed = [] := by
  refine StepReport.printed_of_elsewhere ?_
  rw [(sessionReport_shape answer).2.1]
  exact nofun

theorem Concluded.completed {step : StepReport} (concluded : Concluded configuration step)
    (kept : step.outcome.isFailure = false) (standard : step.target = some .standardOutput) :
    step.completion ≠ none := by
  cases concluded with
  | unnamed => cases kept
  | unwritten => cases kept
  | @answered report target answer captured aimed blank targeted =>
      cases answer with
      | error error => cases kept
      | ok completion => exact Option.some_ne_none completion
  | session answer =>
      rw [(sessionReport_shape answer).2.1] at standard
      cases standard

theorem bootstrap_printed (constant : ∀ call tree, (runner call tree).answer = answer call.command)
    {source : Path} (sourced : configuration.bootstrapSource = some source) (world : World) :
    ∃ report last,
      bootstrap configuration runner world = (.ok report, last) ∧
      report.printed = bootstrapOutput configuration source answer := by
  unfold bootstrapOutput
  cases named : Template.outputFor configuration.template source with
  | error error =>
      refine ⟨_, _, bootstrap_unnamed sourced named runner world, ?_⟩
      rw [bound_of_unnamed named]
      exact StepReport.printed_of_failure rfl
  | ok target =>
      obtain ⟨last, ran, _⟩ := bootstrap_ran sourced named runner world
      refine ⟨_, last, ran, ?_⟩
      rw [bound_of_named named, printed_answered rfl, constant]
      by_cases standard : target = .standardOutput
      · subst standard
        rfl
      · rw [if_neg standard, if_neg standard]

theorem evaluate_printed (constant : ∀ call tree, (runner call tree).answer = answer call.command)
    (imaged : configuration.compilerImage = some image) (world : World) :
    ∃ report last,
      evaluate configuration runner world = (.ok report, last) ∧
      report.printed =
        accepted configuration.warnings (answer (evaluateCommand configuration image)) := by
  obtain ⟨last, ran, _⟩ := evaluate_ran imaged runner world
  refine ⟨_, last, ran, ?_⟩
  rw [printed_answered rfl, if_pos rfl, constant]
  rfl

/-- What a run of a mode puts on standard output. -/
def OutputOf (configuration : Configuration) (answer : Command → Except RunError Completion)
    (output : Bytes) : Mode → Prop
  | .bootstrap =>
      ∃ source, configuration.bootstrapSource = some source ∧
        output = bootstrapOutput configuration source answer
  | .compile evaluates =>
      evaluates = !configuration.forms.isEmpty ∧
      ∃ image, configuration.compilerImage = some image ∧
        output = configuration.inputs.flatMap (moduleOutput configuration image answer) ++
          evaluationOutput configuration image answer
  | .interactive => output = []

theorem whole_printed (constant : ∀ call tree, (runner call tree).answer = answer call.command)
    (several : 1 ≤ configuration.jobs) {world : World} {summary : Summary}
    (ran : (whole configuration runner world).1 = .ok summary) :
    OutputOf configuration answer (summary.steps.flatMap StepReport.printed) summary.mode := by
  refine whole_cases ran ?_ ?_ ?_ ?_
  · intro source sourced _
    obtain ⟨report, last, made, printed⟩ :=
      bootstrap_printed constant sourced (modeWorld .bootstrap world)
    refine ⟨report, last, made, source, sourced, ?_⟩
    rw [List.flatMap_singleton, printed]
  · intro image imaged _ _
    obtain ⟨last, made, _⟩ := interact_ran imaged runner (modeWorld .interactive world)
    refine ⟨_, last, made, ?_⟩
    unfold OutputOf
    rw [List.flatMap_singleton, sessionReport_printed]
  · intro image imaged formless _
    obtain ⟨reports, last, made, printed⟩ :=
      compile_printed constant imaged several (modeWorld (.compile false) world)
    refine ⟨reports, last, made, by simp [formless], image, imaged, ?_⟩
    unfold evaluationOutput
    rw [printed, if_pos formless, List.append_nil]
  · intro image imaged formed
    obtain ⟨reports, next, made, printed⟩ :=
      compile_printed constant imaged several (modeWorld (.compile true) world)
    obtain ⟨report, last, evaluated, behind⟩ := evaluate_printed constant imaged next
    refine ⟨reports, next, made, report, last, evaluated, by simp [formed], image, imaged, ?_⟩
    unfold evaluationOutput
    rw [List.flatMap_append, List.flatMap_singleton, printed, behind, if_neg formed]

/-- The bytes that a run puts on standard output follow from the answers to its commands: the
modules of its files in input order when the template is a dash, and what the evaluation printed.
They are those of the steps that did well and are bound to standard output, each of them in full,
and no others; an output with little room takes as many of them as fit. -/
theorem whole_output (configuration : Configuration) (runner : Runner)
    (answer : Command → Except RunError Completion) (world : World) (summary : Summary)
    (several : 1 ≤ configuration.jobs)
    (constant : ∀ call tree, (runner call tree).answer = answer call.command)
    (ran : (whole configuration runner world).1 = .ok summary) :
    OutputOf configuration answer summary.output summary.mode ∧
      summary.output = summary.steps.flatMap StepReport.printed ∧
      (∀ step ∈ summary.steps, step.outcome.isFailure = false →
        step.target = some .standardOutput → step.completion ≠ none) ∧
      ∀ room, Summary.writeWithin room summary.payloads =
        (summary.output.take room,
          if summary.output.length ≤ room then none
          else some (.described "failed to write whole buffer")) := by
  have printed := whole_printed constant several ran
  have bytes := summary.output_eq
  refine ⟨?_, bytes, ?_, fun room => Summary.writeWithin_eq room summary.payloads⟩
  · rw [bytes]
    exact printed
  · intro step member kept standard
    have concluded := whole_concluded ran step member
    exact concluded.completed kept standard

/-- Three files with products on standard output, the last of which has no stem, and a form. -/
def reciting : Configuration :=
  { compilerImage := some (.ofText "i")
    forms := ["x"]
    template := "-"
    inputs := [.ofText "a", .ofText "b", .ofText ".."]
    jobs := 3
    warnings := .fail
    toolchain := .standard (.ofText "/") }

/-- A process prints the last of its words, and that for `b` complains as well. -/
def recite (command : Command) : Except RunError Completion :=
  .ok
    { stdout := command.words.getLastD []
      stderr := if command.words.getLast? = some (Bytes.ofText "b") then Bytes.ofText "!" else [] }

/-- The first call is the last to end. -/
def recited : Runner := fun call tree =>
  { duration := 9 - call.index, answer := recite call.command, tree := tree }

theorem reciting_prints :
    1 ≤ reciting.jobs ∧ (∀ call tree, (recited call tree).answer = recite call.command) ∧
      ∃ summary, (whole reciting recited { tree := {} }).1 = .ok summary ∧
        OutputOf reciting recite summary.output summary.mode ∧
        summary.output = Bytes.ofText "ax" := by
  refine ⟨by decide, fun _ _ => rfl, _, rfl, ?_, by decide +kernel⟩
  exact (whole_output reciting recited recite { tree := {} } _ (by decide) (fun _ _ => rfl) rfl).1

end Run

end CompilerDriver
