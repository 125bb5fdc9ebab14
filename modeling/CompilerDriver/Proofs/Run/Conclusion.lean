import CompilerDriver.Proofs.Run.Accounting

/-!
The ways in which a step of a run comes to its report. There are four of them, whatever the mode and
whatever the runner does: the target has no name, the call was answered, the module could not be
written after a good answer, or a session ended. What holds of every step of every run is shown by
going through the four.
-/

namespace CompilerDriver

namespace Run

/-- A target that a step of a run may have: standard output, or what the template makes of a source.
-/
def Aimed (configuration : Configuration) (target : Target) : Prop :=
  target = .standardOutput ∨
    ∃ source, Template.outputFor configuration.template source = .ok target

/-- What may stand in the report of a step. In the last two fields of `answered` and `unwritten` the
report is the one from before the answer. -/
inductive Concluded (configuration : Configuration) : StepReport → Prop where
  | unnamed {report : StepReport} {source : Path} {error : TemplateError}
      (unnamed : Template.outputFor configuration.template source = .error error)
      (blank : report.completion = none) (untargeted : report.target = none) :
      Concluded configuration (report.fail (.template error))
  | answered {report : StepReport} {target : Target} (answer : Except RunError Completion)
      (captured : report.operation ≠ .interact) (aimed : Aimed configuration target)
      (blank : report.completion = none) (targeted : report.target = some target) :
      Concluded configuration (report.answered configuration.warnings answer)
  | unwritten {report : StepReport} {path : Path} {completion : Completion} (cause : OsError)
      (captured : report.operation ≠ .interact) (aimed : Aimed configuration (.file path))
      (kept : (report.answered configuration.warnings (.ok completion)).outcome.isFailure = false)
      (blank : report.completion = none) (targeted : report.target = some (.file path)) :
      Concluded configuration
        ((report.answered configuration.warnings (.ok completion)).fail (.write path cause))
  | session (answer : Except RunError Completion) :
      Concluded configuration (sessionReport answer)

variable {configuration : Configuration} {image : Path} {runner : Runner}

theorem targeted_ne_interact (file : Path) (target : Target) :
    (targeted file target).operation ≠ .interact := by
  intro same
  change Operation.compile file = .interact at same
  cases same

theorem Traced.concluded {stay : Stay} {report : StepReport}
    (traced : Traced configuration runner stay (.finished report)) :
    Concluded configuration report := by
  cases traced with
  | refused unnamed => exact .unnamed unnamed rfl rfl
  | @landed file time call tree target later named =>
      have captured := targeted_ne_interact file target
      rcases close_report configuration file target (runner call tree).answer later with
        same | ⟨path, bytes, cause, produced, same⟩
      · rw [same]
        exact .answered _ captured (Or.inr ⟨file, named⟩) rfl rfl
      · rw [same]
        obtain ⟨rfl, kept, completion, answered, _⟩ := product?_eq_some produced
        rw [answered] at kept ⊢
        exact .unwritten cause captured (Or.inr ⟨file, named⟩) kept rfl rfl

theorem concluded_of_traced {stays : List Stay} {reports : List StepReport}
    (traced : List.Forall₂ (Traced configuration runner) stays (reports.map .finished)) :
    ∀ report ∈ reports, Concluded configuration report := by
  induction reports generalizing stays with
  | nil => exact fun report member => absurd member List.not_mem_nil
  | cons first rest ih =>
      cases traced with
      | cons head tail =>
          intro report member
          rcases List.mem_cons.mp member with same | later
          · rw [same]
            exact head.concluded
          · exact ih tail report later

variable (runner) in
theorem compile_concluded (imaged : configuration.compilerImage = some image) (world : World) :
    ∃ reports last,
      compile configuration runner world = (.ok reports, last) ∧
      ∀ report ∈ reports, Concluded configuration report := by
  obtain ⟨last, reports, waiting, stays, ran, reached, _⟩ := compile_reached runner imaged world
  have traced := reached.traced
  simp only [Batch.slots, List.append_nil] at traced
  exact ⟨reports, last, ran, concluded_of_traced traced⟩

theorem evaluate_concluded (answer : Except RunError Completion) :
    Concluded configuration (evaluateBlank.answered configuration.warnings answer) :=
  .answered answer Operation.noConfusion (Or.inl rfl) rfl rfl

/-- Every step of a run came to its report in one of the four ways. -/
theorem whole_concluded {world : World} {summary : Summary}
    (ran : (whole configuration runner world).1 = .ok summary) :
    ∀ step ∈ summary.steps, Concluded configuration step := by
  refine whole_cases ran
    ?_ ?_ ?_ ?_
  · intro source sourced _
    cases named : Template.outputFor configuration.template source with
    | error error =>
        refine ⟨_, _, bootstrap_unnamed sourced named runner _, ?_⟩
        exact List.forall_mem_singleton.mpr (.unnamed named rfl rfl)
    | ok target =>
        obtain ⟨last, made, _⟩ := bootstrap_ran sourced named runner (modeWorld .bootstrap world)
        refine ⟨_, last, made, ?_⟩
        exact List.forall_mem_singleton.mpr
          (.answered _ Operation.noConfusion (Or.inr ⟨source, named⟩) rfl rfl)
  · intro image imaged _ _
    obtain ⟨last, made, _⟩ := interact_ran imaged runner (modeWorld .interactive world)
    exact ⟨_, last, made, List.forall_mem_singleton.mpr (.session _)⟩
  · intro image imaged _ _
    exact compile_concluded runner imaged (modeWorld (.compile false) world)
  · intro image imaged _
    obtain ⟨reports, next, made, concluded⟩ :=
      compile_concluded runner imaged (modeWorld (.compile true) world)
    obtain ⟨last, evaluated, _⟩ := evaluate_ran imaged runner next
    refine ⟨reports, next, made, _, last, evaluated, ?_⟩
    intro step member
    rcases List.mem_append.mp member with compiled | evaluation
    · exact concluded step compiled
    · rw [List.mem_singleton.mp evaluation]
      exact evaluate_concluded _

theorem runError_exitCode (operation : Operation) (error : RunError) :
    (operation.runError error).exitCode = 1 := by
  cases error <;> rfl

theorem Concluded.exitCode {step : StepReport} (concluded : Concluded configuration step)
    {error : StepError} (failed : step.outcome = .failed error) : error.exitCode = 1 := by
  cases concluded with
  | unnamed | unwritten =>
      cases failed
      rfl
  | @answered report target answer =>
      cases answer with
      | error cause =>
          cases failed
          exact runError_exitCode report.operation cause
      | ok completion =>
          change report.operation.classify configuration.warnings completion = _ at failed
          rcases classify_cases report.operation configuration.warnings completion with
            ⟨_, outcome⟩ | ⟨_, _, outcome⟩ | ⟨_, _, _, outcome⟩ | ⟨_, _, _, outcome⟩ <;>
          · rw [outcome] at failed
            cases failed <;> rfl
  | session answer =>
      unfold sessionReport at failed
      cases answer with
      | error cause =>
          cases failed
          exact runError_exitCode .interact cause
      | ok completion =>
          simp only at failed
          split at failed
          · cases failed
          · cases failed
            rfl

end Run

namespace Summary

theorem failures_eq_zero_iff (summary : Summary) :
    summary.failures = 0 ↔ ∀ step ∈ summary.steps, step.outcome.isFailure = false := by
  unfold failures
  simp only [List.countP_eq_zero, Bool.not_eq_true]

theorem length_errors (summary : Summary) : summary.errors.length = summary.failures := by
  unfold errors failures
  rw [List.length_filterMap_eq_countP]
  congr 1
  funext step
  cases step.outcome <;> rfl

theorem foldl_max_ones (count : Nat) : (List.replicate count 1).foldl max 1 = 1 := by
  induction count with
  | zero => rfl
  | succ count ih =>
      rw [List.replicate_succ, List.foldl_cons]
      exact ih

theorem exitCode_eq {summary : Summary}
    (ones : ∀ step ∈ summary.steps, ∀ error, step.outcome = .failed error → error.exitCode = 1) :
    summary.exitCode = if summary.failures = 0 then 0 else 1 := by
  have asked : summary.errors.map StepError.exitCode = List.replicate summary.failures 1 := by
    refine List.eq_replicate_iff.mpr ⟨by rw [List.length_map, length_errors], ?_⟩
    intro code member
    obtain ⟨error, failing, rfl⟩ := List.mem_map.mp member
    obtain ⟨step, inside, found⟩ := List.mem_filterMap.mp failing
    cases outcome : step.outcome with
    | success | warnings =>
        rw [outcome] at found
        cases found
    | failed cause =>
        rw [outcome] at found
        cases found
        exact ones step inside error outcome
  unfold exitCode
  rw [asked]
  cases summary.failures with
  | zero => rfl
  | succ count =>
      rw [List.replicate_succ, List.foldl_cons, if_neg (Nat.succ_ne_zero count)]
      exact foldl_max_ones count

theorem exitCode_of_concluded {configuration : Configuration} {summary : Summary}
    (concluded : ∀ step ∈ summary.steps, Run.Concluded configuration step) :
    summary.exitCode = if summary.failures = 0 then 0 else 1 :=
  exitCode_eq fun step member _ => (concluded step member).exitCode

end Summary

end CompilerDriver
