import CompilerDriver.Proofs.Run.Conclusion
import CompilerDriver.Proofs.Text.Utf8
import CompilerDriver.Report.Human

/-!
Where the report for a reader shows what a process wrote to its error stream. The report is one
passage for each step, in order, and a footer. A step with diagnostics has them right behind its own
first line, whatever came of it, with one exception: of a step whose module could not be written the
report names the obstacle only, since the error that it shows carries no diagnostics.
-/

namespace CompilerDriver

theorem Completion.stderrText_ne_empty {completion : Completion} (warned : completion.stderr ≠ []) :
    completion.stderrText ≠ "" := by
  intro silent
  have chars := congrArg String.toList silent
  unfold Completion.stderrText Text.Utf8.lossy at chars
  rw [String.toList_ofList] at chars
  exact Text.Utf8.lossyChars_ne_nil warned chars

/-- A step fails over its module alone when its process did well and the module could not be
written. -/
def Outcome.IsUnwritten (outcome : Outcome) : Prop :=
  ∃ path cause, outcome = .failed (.write path cause)

namespace Report

def passage (coloured : Bool) (steps : List StepReport) : String :=
  String.join ((steps.filter isShown).map (line coloured))

variable {coloured : Bool}

theorem passage_append (left right : List StepReport) :
    passage coloured (left ++ right) = passage coloured left ++ passage coloured right := by
  unfold passage
  rw [List.filter_append, List.map_append, String.join_append]

theorem passage_cons {step : StepReport} (shown : isShown step = true) (rest : List StepReport) :
    passage coloured (step :: rest) = line coloured step ++ passage coloured rest := by
  unfold passage
  rw [List.filter_cons_of_pos shown, List.map_cons, String.join_cons]

theorem human_around {summary : Summary} {before after : List StepReport} {step : StepReport}
    (placed : summary.steps = before ++ step :: after) (shown : isShown step = true) :
    human coloured summary =
      passage coloured before ++
        (line coloured step ++ (passage coloured after ++ footer coloured summary)) := by
  change passage coloured summary.steps ++ footer coloured summary = _
  rw [placed, passage_append, passage_cons shown]
  simp only [String.append_assoc]

theorem closeLine_empty : closeLine "" = "" := rfl

theorem closeLine_eq (text : String) :
    ∃ ending, (ending = "" ∨ ending = "\n") ∧ closeLine text = text ++ ending := by
  unfold closeLine
  split
  · exact ⟨"", Or.inl rfl, String.append_empty.symm⟩
  · exact ⟨"\n", Or.inr rfl, rfl⟩

/-- The report shows a text right behind the first line of a step, letter for letter, and closes its
last line when the text does not. -/
def Surfaces (coloured : Bool) (summary : Summary) (before : List StepReport) (step : StepReport)
    (after : List StepReport) (text : String) : Prop :=
  ∃ ending, (ending = "" ∨ ending = "\n") ∧
    human coloured summary =
      passage coloured before ++
        (headline coloured step ++ text ++ ending ++
          (passage coloured after ++ footer coloured summary))

theorem diagnostics_answered {completion : Completion} (warned : completion.stderr ≠ [])
    (policy : WarningPolicy) (report : StepReport) :
    ¬(report.answered policy (.ok completion)).outcome.IsUnwritten ∧
      diagnostics (report.answered policy (.ok completion)) = completion.stderrText := by
  unfold diagnostics Outcome.IsUnwritten
  simp only [StepReport.answered]
  rcases Run.classify_cases report.operation policy completion with
    ⟨_, outcome⟩ | ⟨_, silent, _⟩ | ⟨_, _, _, outcome⟩ | ⟨_, _, _, outcome⟩
  · simp [outcome, StepError.reason?, FailureReason.stderr?]
  · exact absurd silent warned
  · simp [outcome]
  · simp [outcome, StepError.reason?, FailureReason.stderr?]

/-- The diagnostics of a step that wrote to its error stream are all that it wrote, unless its
module could not be written; then it has none. -/
theorem diagnostics_of_warned {configuration : Configuration} {step : StepReport}
    {completion : Completion} (concluded : Run.Concluded configuration step)
    (completed : step.completion = some completion) (warned : completion.stderr ≠ []) :
    step.operation ≠ .interact ∧
      (¬step.outcome.IsUnwritten ∧ diagnostics step = completion.stderrText ∨
        step.outcome.IsUnwritten ∧ diagnostics step = "") := by
  cases concluded with
  | unnamed unnamed blank untargeted => exact absurd (blank.symm.trans completed) nofun
  | @answered report target answer captured aimed blank targeted =>
      cases answer with
      | error error => exact absurd (blank.symm.trans completed) nofun
      | ok other =>
          cases completed
          exact ⟨captured, Or.inl (diagnostics_answered warned configuration.warnings report)⟩
  | unwritten cause captured aimed kept blank targeted =>
      exact ⟨captured, Or.inr ⟨⟨_, cause, rfl⟩, rfl⟩⟩
  | session answer =>
      rw [(Run.sessionReport_shape answer).2.2] at completed
      cases completed

/-- Whatever a step of a run wrote to its error stream stands in the report right behind the first
line of the step, unless the module of the step could not be written. -/
theorem surfaces_iff (configuration : Configuration) (runner : Runner) (world : World)
    (coloured : Bool) (summary : Summary) (before after : List StepReport) (step : StepReport)
    (completion : Completion) (ran : (Run.whole configuration runner world).1 = .ok summary)
    (placed : summary.steps = before ++ step :: after)
    (completed : step.completion = some completion) (warned : completion.stderr ≠ []) :
    Surfaces coloured summary before step after completion.stderrText ↔
      ¬step.outcome.IsUnwritten := by
  have member : step ∈ summary.steps := by
    rw [placed]
    exact List.mem_append_right _ List.mem_cons_self
  have concluded := Run.whole_concluded ran step member
  obtain ⟨captured, diagnosed⟩ := diagnostics_of_warned concluded completed warned
  have shown : isShown step = true := by simp [isShown, captured]
  have around : human coloured summary = _ := human_around placed shown
  unfold line at around
  rcases diagnosed with ⟨written, diagnosticsEq⟩ | ⟨unwritten, diagnosticsEq⟩
  · refine iff_of_true ?_ written
    obtain ⟨ending, ends, closed⟩ := closeLine_eq completion.stderrText
    refine ⟨ending, ends, ?_⟩
    rw [around, diagnosticsEq, closed]
    simp only [String.append_assoc]
  · refine iff_of_false ?_ (not_not_intro unwritten)
    rintro ⟨ending, _, surfaced⟩
    -- The report has no room for the text: the two ways to write it differ in length.
    have lengths := congrArg String.length (around.symm.trans surfaced)
    have someText : completion.stderrText.length ≠ 0 := by
      rw [Ne, String.length_eq_zero_iff]
      exact Completion.stderrText_ne_empty warned
    rw [diagnosticsEq, closeLine_empty] at lengths
    simp only [String.length_append, String.length_empty] at lengths
    omega

/-- Two files, the module of the first of which has the name of a directory. -/
def blocked : Configuration :=
  { compilerImage := some (.ofText "/img/c.wasm")
    template := "\x7b\x7d.wasm"
    inputs := [.ofText "a.ss", .ofText "b.ss"]
    toolchain := .standard (.ofText "/") }

def blockedTree : FileTree :=
  { entries := [([Bytes.ofText "a.wasm"], .directory)] }

def complaining : Completion :=
  { stdout := Bytes.ofText "M", stderr := Bytes.ofText "warning\n" }

def warning : Runner := fun _ tree =>
  { duration := 0, answer := .ok complaining, tree := tree }

def blockedStep : StepReport :=
  { operation := .compile (.ofText "a.ss")
    source := some (.ofText "a.ss")
    target := some (.file (.ofText "a.wasm"))
    completion := some complaining
    outcome := .failed (.write (.ofText "a.wasm") .isDirectory) }

def freeStep : StepReport :=
  { operation := .compile (.ofText "b.ss")
    source := some (.ofText "b.ss")
    target := some (.file (.ofText "b.wasm"))
    completion := some complaining
    outcome := .warnings }

def blockedSummary : Summary :=
  { mode := .compile false, steps := [blockedStep, freeStep] }

theorem blocked_ran :
    (Run.whole blocked warning { tree := blockedTree }).1 = .ok blockedSummary := by
  decide +kernel

/-- What the first process wrote does not stand behind the first line of its step. -/
theorem blocked_silent :
    (Run.whole blocked warning { tree := blockedTree }).1 = .ok blockedSummary ∧
      blockedStep ∈ blockedSummary.steps ∧ blockedStep.completion = some complaining ∧
      complaining.stderr ≠ [] ∧
      ¬∃ before after,
        human false blockedSummary =
          before ++ (headline false blockedStep ++ complaining.stderrText) ++ after := by
  refine ⟨blocked_ran, List.mem_cons_self, rfl, by decide +kernel, ?_⟩
  rintro ⟨before, after, contained⟩
  have infixed : (headline false blockedStep ++ complaining.stderrText).toList <:+:
      (human false blockedSummary).toList := by
    refine ⟨before.toList, after.toList, ?_⟩
    rw [contained]
    simp only [String.toList_append]
  exact absurd infixed (by decide +kernel)

/-- What the second process wrote stands behind the first line of its own step. -/
theorem free_surfaces :
    Surfaces false blockedSummary [blockedStep] freeStep [] complaining.stderrText ↔
      ¬freeStep.outcome.IsUnwritten :=
  surfaces_iff blocked warning { tree := blockedTree } false blockedSummary [blockedStep] []
    freeStep complaining blocked_ran rfl rfl (by decide +kernel)

end Report

end CompilerDriver
