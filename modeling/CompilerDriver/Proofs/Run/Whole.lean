import CompilerDriver.Proofs.Run.Single

/-!
A whole run, mode by mode: what it comes to once the steps of its mode have come to something. Only
a configuration with a bootstrap source and no image, or with an image and no source, has a summary.
-/

namespace CompilerDriver.Run

variable {configuration : Configuration} {image source : Path} {runner : Runner} {world : World}

def modeWorld (mode : Mode) (world : World) : World :=
  world.log { level := .debug, message := "resolved mode", fields := [("mode", .text mode.name)] }

theorem modeWorld_launched (mode : Mode) (world : World) :
    (modeWorld mode world).launched = world.launched := by
  rw [World.launched_eq_starts, World.launched_eq_starts]
  unfold modeWorld
  rw [World.log_starts]

theorem modeWorld_trace (mode : Mode) (world : World) :
    ∃ record, (modeWorld mode world).trace = world.trace ++ [.logged record] :=
  ⟨_, rfl⟩

theorem resolve_bootstrap (sourced : configuration.bootstrapSource = some source)
    (bare : configuration.compilerImage = none) :
    Mode.resolve configuration = .ok .bootstrap := by
  unfold Mode.resolve
  rw [sourced, bare]

theorem resolve_forms (unsourced : configuration.bootstrapSource = none)
    (formed : configuration.forms ≠ []) :
    Mode.resolve configuration = .ok (.compile true) := by
  unfold Mode.resolve
  rw [unsourced]
  simp [formed]

theorem resolve_files (unsourced : configuration.bootstrapSource = none)
    (formless : configuration.forms = []) (given : configuration.inputs ≠ []) :
    Mode.resolve configuration = .ok (.compile false) := by
  unfold Mode.resolve
  rw [unsourced]
  simp [formless, given]

theorem resolve_session (unsourced : configuration.bootstrapSource = none)
    (formless : configuration.forms = []) (empty : configuration.inputs = []) :
    Mode.resolve configuration = .ok .interactive := by
  unfold Mode.resolve
  rw [unsourced]
  simp [formless, empty]

/-- Asking for the image up front changes nothing, since compiling asks for it before all else. -/
theorem compileThenEvaluate_eq (configuration : Configuration) (evaluates : Bool) (runner : Runner)
    (world : World) :
    compileThenEvaluate configuration evaluates runner world =
      match compile configuration runner world with
      | (.error error, next) => (.error error, next)
      | (.ok reports, next) =>
          if evaluates then
            match evaluate configuration runner next with
            | (.error error, last) => (.error error, last)
            | (.ok report, last) => (.ok (reports ++ [report]), last)
          else (.ok reports, next) := by
  unfold compileThenEvaluate compile
  cases configuration.image <;> rfl

theorem whole_of_bootstrap {report : StepReport} {last : World}
    (sourced : configuration.bootstrapSource = some source)
    (bare : configuration.compilerImage = none)
    (ran : bootstrap configuration runner (modeWorld .bootstrap world) = (.ok report, last)) :
    whole configuration runner world =
      (.ok { mode := .bootstrap, steps := [report] }, last) := by
  unfold whole
  rw [resolve_bootstrap sourced bare]
  unfold modeWorld at ran
  simp only [steps, only, ran]
  rfl

theorem whole_of_files {reports : List StepReport} {last : World}
    (unsourced : configuration.bootstrapSource = none) (formless : configuration.forms = [])
    (given : configuration.inputs ≠ [])
    (ran : compile configuration runner (modeWorld (.compile false) world) =
      (.ok reports, last)) :
    whole configuration runner world =
      (.ok { mode := .compile false, steps := reports }, last) := by
  unfold whole
  rw [resolve_files unsourced formless given]
  unfold modeWorld at ran
  simp only [steps, compileThenEvaluate_eq, ran]
  rfl

theorem whole_of_forms {reports : List StepReport} {report : StepReport} {next last : World}
    (unsourced : configuration.bootstrapSource = none) (formed : configuration.forms ≠ [])
    (compiled : compile configuration runner (modeWorld (.compile true) world) =
      (.ok reports, next))
    (evaluated : evaluate configuration runner next = (.ok report, last)) :
    whole configuration runner world =
      (.ok { mode := .compile true, steps := reports ++ [report] }, last) := by
  unfold whole
  rw [resolve_forms unsourced formed]
  unfold modeWorld at compiled
  simp only [steps, compileThenEvaluate_eq, compiled, evaluated, if_true]
  rfl

theorem whole_of_session {report : StepReport} {last : World}
    (unsourced : configuration.bootstrapSource = none) (formless : configuration.forms = [])
    (empty : configuration.inputs = [])
    (ran : interact configuration runner (modeWorld .interactive world) = (.ok report, last)) :
    whole configuration runner world =
      (.ok { mode := .interactive, steps := [report] }, last) := by
  unfold whole
  rw [resolve_session unsourced formless empty]
  unfold modeWorld at ran
  simp only [steps, only, ran]
  rfl

theorem compile_missing (absent : configuration.compilerImage = none) :
    compile configuration runner world = (.error .missingImage, world) := by
  unfold compile Configuration.image
  rw [absent]

theorem interact_missing (absent : configuration.compilerImage = none) :
    interact configuration runner world = (.error .missingImage, world) := by
  unfold interact Configuration.image
  rw [absent]

theorem whole_conflict (sourced : configuration.bootstrapSource = some source)
    (imaged : configuration.compilerImage = some image) :
    whole configuration runner world = (.error (.conflict source image), world) := by
  unfold whole Mode.resolve
  rw [sourced, imaged]

theorem whole_of_missing (runner : Runner) (world : World)
    (unsourced : configuration.bootstrapSource = none)
    (absent : configuration.compilerImage = none) :
    ∃ mode, whole configuration runner world = (.error .missingImage, modeWorld mode world) := by
  have resolved : ∃ mode, Mode.resolve configuration = .ok mode ∧ mode ≠ .bootstrap := by
    by_cases formed : configuration.forms = []
    · by_cases given : configuration.inputs = []
      · exact ⟨_, resolve_session unsourced formed given, nofun⟩
      · exact ⟨_, resolve_files unsourced formed given, nofun⟩
    · exact ⟨_, resolve_forms unsourced formed, nofun⟩
  obtain ⟨mode, found, other⟩ := resolved
  refine ⟨mode, ?_⟩
  unfold whole
  rw [found]
  cases mode with
  | bootstrap => exact absurd rfl other
  | compile evaluates =>
      simp only [steps, compileThenEvaluate_eq, compile_missing absent]
      rfl
  | interactive =>
      simp only [steps, only, interact_missing absent]
      rfl

theorem settings_of_whole_ok {summary : Summary}
    (ran : (whole configuration runner world).1 = .ok summary) :
    (∃ source, configuration.bootstrapSource = some source ∧
        configuration.compilerImage = none) ∨
      configuration.bootstrapSource = none ∧ ∃ image, configuration.compilerImage = some image := by
  cases sourced : configuration.bootstrapSource with
  | none =>
      cases imaged : configuration.compilerImage with
      | none =>
          obtain ⟨mode, refused⟩ := whole_of_missing runner world sourced imaged
          rw [refused] at ran
          cases ran
      | some image => exact Or.inr ⟨rfl, image, rfl⟩
  | some source =>
      cases imaged : configuration.compilerImage with
      | none => exact Or.inl ⟨source, rfl, rfl⟩
      | some image =>
          rw [whole_conflict sourced imaged] at ran
          cases ran

/-- What holds of every summary and the world that is left: one case for each kind of run. -/
@[elab_as_elim]
theorem whole_cases {property : Summary → World → Prop} {summary : Summary}
    (ran : (whole configuration runner world).1 = .ok summary)
    (bootstraps : ∀ source, configuration.bootstrapSource = some source →
      configuration.compilerImage = none →
      ∃ report last, bootstrap configuration runner (modeWorld .bootstrap world) =
          (.ok report, last) ∧
        property { mode := .bootstrap, steps := [report] } last)
    (session : ∀ image, configuration.compilerImage = some image → configuration.forms = [] →
      configuration.inputs = [] →
      ∃ report last, interact configuration runner (modeWorld .interactive world) =
          (.ok report, last) ∧
        property { mode := .interactive, steps := [report] } last)
    (files : ∀ image, configuration.compilerImage = some image → configuration.forms = [] →
      configuration.inputs ≠ [] →
      ∃ reports last, compile configuration runner (modeWorld (.compile false) world) =
          (.ok reports, last) ∧
        property { mode := .compile false, steps := reports } last)
    (forms : ∀ image, configuration.compilerImage = some image → configuration.forms ≠ [] →
      ∃ reports next, compile configuration runner (modeWorld (.compile true) world) =
          (.ok reports, next) ∧
        ∃ report last, evaluate configuration runner next = (.ok report, last) ∧
          property { mode := .compile true, steps := reports ++ [report] } last) :
    property summary (whole configuration runner world).2 := by
  rcases settings_of_whole_ok ran with ⟨source, sourced, bare⟩ | ⟨unsourced, image, imaged⟩
  · obtain ⟨report, last, made, holds⟩ := bootstraps source sourced bare
    have wholeEq := whole_of_bootstrap sourced bare made
    rw [wholeEq] at ran ⊢
    cases ran
    exact holds
  · by_cases formless : configuration.forms = []
    · by_cases empty : configuration.inputs = []
      · obtain ⟨report, last, made, holds⟩ := session image imaged formless empty
        have wholeEq := whole_of_session unsourced formless empty made
        rw [wholeEq] at ran ⊢
        cases ran
        exact holds
      · obtain ⟨reports, last, made, holds⟩ := files image imaged formless empty
        have wholeEq := whole_of_files unsourced formless empty made
        rw [wholeEq] at ran ⊢
        cases ran
        exact holds
    · obtain ⟨reports, next, made, report, last, evaluated, holds⟩ := forms image imaged formless
      have wholeEq := whole_of_forms unsourced formless made evaluated
      rw [wholeEq] at ran ⊢
      cases ran
      exact holds

theorem mode_of_whole {summary : Summary} (ran : (whole configuration runner world).1 = .ok summary) :
    Mode.resolve configuration = .ok summary.mode ∧
      (steps configuration summary.mode runner (modeWorld summary.mode world)).1 =
        .ok summary.steps := by
  unfold whole at ran
  cases resolved : Mode.resolve configuration with
  | error error =>
      rw [resolved] at ran
      cases ran
  | ok mode =>
      rw [resolved] at ran
      simp only at ran
      cases made : (steps configuration mode runner (modeWorld mode world)).1 with
      | error error =>
          unfold modeWorld at made
          rw [made] at ran
          cases ran
      | ok reports =>
          have same := made
          unfold modeWorld at same
          rw [same] at ran
          cases ran
          exact ⟨rfl, made⟩

end CompilerDriver.Run
