import CompilerDriver.Proofs.Run.Trace

/-!
The two halves of a compile step, each with what it does to the world. The first half is decided by
the target of the file: a file without one is reported at once and leaves the world alone. What the
second half reports, and the tree it leaves, depend on the world through its tree only.
-/

namespace CompilerDriver

namespace Run

open Template

variable {configuration : Configuration} {image file : Path} {runner : Runner} {world : World}

def refusal (file : Path) (error : TemplateError) : StepReport :=
  (StepReport.blank (.compile file)).fail (.template error)

def openingCall (configuration : Configuration) (image file : Path) (world : World) : Call :=
  world.nextCall false (compileCommand configuration image file)

def openingReply (configuration : Configuration) (image : Path) (runner : Runner) (file : Path)
    (world : World) : Reply :=
  world.reply runner false (compileCommand configuration image file)

def opened (configuration : Configuration) (image : Path) (runner : Runner) (file : Path)
    (target : Target) (world : World) : Compiling :=
  { file := file
    target := target
    flight :=
      { index := world.calls
        finish := world.time + (openingReply configuration image runner file world).duration
        answer := (openingReply configuration image runner file world).answer
        closing := (openingReply configuration image runner file world).closing } }

def openingEvents (configuration : Configuration) (image : Path) (runner : Runner) (file : Path)
    (world : World) : List Event :=
  .logged
    { level := .info
      message := "compiling " ++ file.display
      fields := [("command", .text (compileCommand configuration image file).display)] } ::
    .started world.time (openingCall configuration image file world) ::
      (openingReply configuration image runner file world).opening.map .logged

def afterOpening (configuration : Configuration) (image : Path) (runner : Runner) (file : Path)
    (world : World) : World :=
  { time := world.time
    calls := world.calls + 1
    tree := (openingReply configuration image runner file world).tree
    trace := world.trace ++ openingEvents configuration image runner file world }

theorem beginCompile_of_unnamed {error : TemplateError}
    (unnamed : outputFor configuration.template file = .error error) :
    beginCompile configuration image runner file world = (.inl (refusal file error), world) := by
  unfold beginCompile
  rw [unnamed]
  rfl

theorem beginCompile_of_named {target : Target}
    (named : outputFor configuration.template file = .ok target) :
    beginCompile configuration image runner file world =
      (.inr (opened configuration image runner file target world),
        afterOpening configuration image runner file world) := by
  unfold beginCompile
  rw [named]
  simp only [World.launch_flight, Prod.mk.injEq]
  refine ⟨rfl, ?_⟩
  simp [World.launch, World.log, World.logAll, afterOpening, openingEvents, openingCall,
    openingReply, World.nextCall, World.reply]

theorem starts_openingEvents :
    Event.starts (openingEvents configuration image runner file world) =
      [(world.time, openingCall configuration image file world)] := by
  simp [openingEvents]

theorem ends_openingEvents :
    Event.ends (openingEvents configuration image runner file world) = [] := by
  simp [openingEvents]

end Run

/-- A report once its call has been answered, before anything is written. -/
def StepReport.answered (policy : WarningPolicy) (answer : Except RunError Completion)
    (report : StepReport) : StepReport :=
  match answer with
  | .error error => report.fail (report.operation.runError error)
  | .ok completion =>
      { report with
        completion := some completion
        outcome := report.operation.classify policy completion }

namespace Run

/-- What becomes of a step once it has been answered: its report, the tree it leaves, and the
records of a module it wrote. -/
structure Closing where
  report : StepReport
  tree : FileTree
  records : List Record := []

def writtenRecord (path : Path) (bytes : Bytes) : Record :=
  { level := .debug
    message := "wrote module"
    fields := [("path", .text path.display), ("bytes", .number bytes.length)] }

/-- The module that a step writes: only one that has not failed and goes to a file writes one. -/
def product? (target : Target) (answer : Except RunError Completion) (outcome : Outcome) :
    Option (Path × Bytes) :=
  match target, answer with
  | .file path, .ok completion =>
      if outcome.isFailure then none else some (path, completion.stdout)
  | _, _ => none

theorem product?_eq_some {target : Target} {answer : Except RunError Completion}
    {outcome : Outcome} {path : Path} {bytes : Bytes}
    (produced : product? target answer outcome = some (path, bytes)) :
    target = .file path ∧ outcome.isFailure = false ∧
      ∃ completion, answer = .ok completion ∧ completion.stdout = bytes := by
  unfold product? at produced
  cases target with
  | standardOutput => cases produced
  | file goal =>
      cases answer with
      | error error => cases produced
      | ok completion =>
          cases failing : outcome.isFailure with
          | true => simp only [failing, if_true] at produced; cases produced
          | false =>
              simp only [failing, Bool.false_eq_true, if_false, Option.some.injEq,
                Prod.mk.injEq] at produced
              obtain ⟨rfl, same⟩ := produced
              exact ⟨rfl, rfl, completion, rfl, same⟩

def targeted (file : Path) (target : Target) : StepReport :=
  { StepReport.blank (.compile file) with target := some target }

def close (configuration : Configuration) (file : Path) (target : Target)
    (answer : Except RunError Completion) (tree : FileTree) : Closing :=
  let report := (targeted file target).answered configuration.warnings answer
  match product? target answer report.outcome with
  | none => { report := report, tree := tree }
  | some (path, bytes) =>
      match tree.writeProduct path bytes with
      | (some cause, next) => { report := report.fail (.write path cause), tree := next }
      | (none, next) =>
          { report := report, tree := next, records := [writtenRecord path bytes] }

/-- A closed step is reported as its call was answered, unless its module could not be written. -/
theorem close_report (configuration : Configuration) (file : Path) (target : Target)
    (answer : Except RunError Completion) (tree : FileTree) :
    (close configuration file target answer tree).report =
        (targeted file target).answered configuration.warnings answer ∨
      ∃ path bytes cause,
        product? target answer
            ((targeted file target).answered configuration.warnings answer).outcome =
          some (path, bytes) ∧
        (close configuration file target answer tree).report =
          ((targeted file target).answered configuration.warnings answer).fail
            (.write path cause) := by
  unfold close
  cases produced : product? target answer
      ((targeted file target).answered configuration.warnings answer).outcome with
  | none => exact Or.inl (by simp only [produced])
  | some product =>
      obtain ⟨path, bytes⟩ := product
      cases wrote : tree.writeProduct path bytes with
      | mk cause next =>
          cases cause with
          | none => exact Or.inl (by simp only [produced, wrote])
          | some cause =>
              exact Or.inr ⟨path, bytes, cause, rfl, by simp only [produced, wrote]⟩

theorem answered_operation (policy : WarningPolicy) (answer : Except RunError Completion)
    (report : StepReport) :
    (report.answered policy answer).operation = report.operation ∧
      (report.answered policy answer).source = report.source ∧
      (report.answered policy answer).target = report.target := by
  cases answer <;> exact ⟨rfl, rfl, rfl⟩

theorem close_operation (configuration : Configuration) (file : Path) (target : Target)
    (answer : Except RunError Completion) (tree : FileTree) :
    (close configuration file target answer tree).report.operation = .compile file ∧
      (close configuration file target answer tree).report.source = some file ∧
      (close configuration file target answer tree).report.target = some target := by
  have kept := answered_operation configuration.warnings answer (targeted file target)
  rcases close_report configuration file target answer tree with same | ⟨path, _, cause, _, same⟩
  · rw [same]; exact kept
  · rw [same]; exact kept

def closing (configuration : Configuration) (step : Compiling) (world : World) : Closing :=
  close configuration step.file step.target step.flight.answer world.tree

def closingEvents (configuration : Configuration) (step : Compiling) (world : World) :
    List Event :=
  .ended (max world.time step.flight.finish) step.flight.index ::
    (step.flight.closing ++ (closing configuration step world).records).map .logged

theorem endCompile_eq (configuration : Configuration) (step : Compiling) (world : World) :
    endCompile configuration step world =
      ((closing configuration step world).report,
        { time := max world.time step.flight.finish
          calls := world.calls
          tree := (closing configuration step world).tree
          trace := world.trace ++ closingEvents configuration step world }) := by
  obtain ⟨file, target, ⟨index, finish, answer, records⟩⟩ := step
  unfold endCompile closingEvents closing close
  cases answer with
  | error error => cases target <;> simp [World.land, World.logAll, product?] <;> rfl
  | ok completion =>
      have reportAt : (targeted file target).answered configuration.warnings (.ok completion) =
          { StepReport.blank (.compile file) with
            target := some target
            completion := some completion
            outcome := (Operation.compile file).classify configuration.warnings completion } := rfl
      simp only [deliver, World.land_tree, reportAt]
      generalize (Operation.compile file).classify configuration.warnings completion = outcome
      cases target with
      | standardOutput => cases outcome <;> simp [World.land, World.logAll, product?]
      | file path =>
          cases wrote : world.tree.writeProduct path completion.stdout with
          | mk cause tree =>
              cases outcome <;> cases cause <;>
                simp [World.land, World.logAll, World.log, StepReport.fail, product?,
                  Outcome.isFailure, writtenRecord, wrote]

theorem starts_closingEvents (configuration : Configuration) (step : Compiling) (world : World) :
    Event.starts (closingEvents configuration step world) = [] := by
  simp [closingEvents]

theorem ends_closingEvents (configuration : Configuration) (step : Compiling) (world : World) :
    Event.ends (closingEvents configuration step world) =
      [(max world.time step.flight.finish, step.flight.index)] := by
  simp [closingEvents]

end Run

end CompilerDriver
