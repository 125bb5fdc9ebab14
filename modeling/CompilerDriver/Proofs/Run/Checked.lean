import CompilerDriver.Proofs.Run.Conclusion
import CompilerDriver.Proofs.Run.Refusal
import CompilerDriver.Proofs.Template

/-!
Requests and the runs of what they become. A request is refused for the first thing that is wrong
with it, and for nothing that a stage could be to blame for. What was checked once is not refused
again later: its mode is known, its template names a target for every source that has a stem, and a
run of it fails only for want of anything to run.
-/

namespace CompilerDriver

namespace Request

variable (request : Request) (directory : Path)

/-- Both a bootstrap and an image were asked for by name. -/
def Contradicts : Prop :=
  request.bootstrap ≠ none ∧ request.image ≠ none

def chosenTemplate : String :=
  request.template.getD Template.fallback

/-- The image that counts: the one that was named, or else that of a stage, but none beside a
bootstrap. -/
def chosenImage? : Option Path :=
  match request.image, request.bootstrap with
  | some image, _ => some (directory.anchor image)
  | none, some _ => none
  | none, none => request.stagedImage?

def settled (template : String) (jobs : Nat) : Configuration :=
  { bootstrapSource := request.bootstrapSource? directory
    compilerImage := request.chosenImage? directory
    interactive := request.interactive
    forms := request.forms
    template := template
    runtime := request.runtime
    inputs := request.inputs
    jobs := jobs
    timeout := request.timeout
    warnings := request.warnings
    toolchain := request.toolchain }

variable {request directory}

variable (directory) in
theorem check_of_both {source : Option Path} {image : Path}
    (sourced : request.bootstrap = some source) (imaged : request.image = some image) :
    request.check directory =
      .error (.conflict (directory.anchor (source.getD request.toolchain.compilerSource))
        (directory.anchor image)) := by
  unfold check bootstrapSource? namedImage?
  rw [sourced, imaged]
  rfl

variable (directory) in
theorem check_of_single (single : ¬request.Contradicts) :
    request.check directory =
      request.limits.map fun limits => request.settled directory limits.1 limits.2 := by
  unfold check settled chosenImage? bootstrapSource? namedImage?
  cases sourced : request.bootstrap with
  | none =>
      cases imaged : request.image with
      | none => cases request.limits <;> rfl
      | some image => cases request.limits <;> rfl
  | some source =>
      cases imaged : request.image with
      | none => cases request.limits <;> rfl
      | some image =>
          refine absurd ⟨?_, ?_⟩ single
          · rw [sourced]
            exact Option.some_ne_none source
          · rw [imaged]
            exact Option.some_ne_none image

theorem limits_of_unusable (unusable : ¬Template.Usable request.chosenTemplate) :
    request.limits = .error (.template (.invalidTemplate request.chosenTemplate)) := by
  have refused := Template.validate_of_unusable unusable
  unfold limits
  unfold chosenTemplate at refused ⊢
  simp only [refused]

theorem limits_of_noJobs (usable : Template.Usable request.chosenTemplate)
    (idle : request.jobs = some 0) : request.limits = .error .noJobs := by
  have granted := Template.validate_of_usable usable
  unfold limits
  unfold chosenTemplate at granted
  simp only [granted, idle]
  rfl

theorem limits_of_jobs (usable : Template.Usable request.chosenTemplate)
    (busy : request.jobs ≠ some 0) :
    request.limits = .ok (request.chosenTemplate, request.jobs.getD 1) ∧
      1 ≤ request.jobs.getD 1 := by
  have granted := Template.validate_of_usable usable
  have someJobs : request.jobs.getD 1 ≠ 0 := by
    cases number : request.jobs with
    | none => exact Nat.one_ne_zero
    | some jobs =>
        intro idle
        change jobs = 0 at idle
        rw [number, idle] at busy
        exact busy rfl
  refine ⟨?_, Nat.one_le_iff_ne_zero.mpr someJobs⟩
  unfold limits
  unfold chosenTemplate at granted ⊢
  simp only [granted, if_neg someJobs]

variable (request directory) in
/-- What a request comes to. The first thing that is wrong with it decides: two things to start
from, then a template that names nothing, then no jobs at all. -/
structure Judged : Prop where
  conflict : ∀ source image, request.check directory = .error (.conflict source image) ↔
    request.Contradicts ∧ request.bootstrapSource? directory = some source ∧
      request.namedImage? directory = some image
  template : ∀ error, request.check directory = .error (.template error) ↔
    ¬request.Contradicts ∧ ¬Template.Usable request.chosenTemplate ∧
      error = .invalidTemplate request.chosenTemplate
  noJobs : request.check directory = .error .noJobs ↔
    ¬request.Contradicts ∧ Template.Usable request.chosenTemplate ∧ request.jobs = some 0
  accepted : (∃ configuration, request.check directory = .ok configuration) ↔
    ¬request.Contradicts ∧ Template.Usable request.chosenTemplate ∧ request.jobs ≠ some 0

variable (request directory) in
theorem judged : request.Judged directory := by
  by_cases both : request.Contradicts
  · obtain ⟨source, sourced⟩ := Option.ne_none_iff_exists'.mp both.1
    obtain ⟨image, imaged⟩ := Option.ne_none_iff_exists'.mp both.2
    have refused := check_of_both directory sourced imaged
    constructor <;> simp [refused, both, bootstrapSource?, namedImage?, sourced, imaged]
  · have checked := check_of_single directory both
    by_cases usable : Template.Usable request.chosenTemplate
    · by_cases idle : request.jobs = some 0
      · rw [limits_of_noJobs usable idle] at checked
        constructor <;> simp [checked, Except.map, both, usable, idle]
      · rw [(limits_of_jobs usable idle).1] at checked
        constructor <;> simp [checked, Except.map, both, usable, idle]
    · rw [limits_of_unusable usable] at checked
      constructor <;> simp [checked, Except.map, both, usable, eq_comm]

theorem settled_of_check {configuration : Configuration}
    (checked : request.check directory = .ok configuration) :
    ¬request.Contradicts ∧ Template.Usable request.chosenTemplate ∧ 1 ≤ request.jobs.getD 1 ∧
      configuration =
        request.settled directory request.chosenTemplate (request.jobs.getD 1) := by
  obtain ⟨single, usable, busy⟩ := (judged request directory).accepted.mp ⟨_, checked⟩
  obtain ⟨limited, positive⟩ := limits_of_jobs usable busy
  rw [check_of_single directory single, limited] at checked
  exact ⟨single, usable, positive, (Except.ok.inj checked).symm⟩

end Request

/-! ### Runs of checked requests -/

/-- A failure that a check of the request could have told beforehand. -/
def Outcome.IsBelated : Outcome → Prop
  | .failed (.template (.invalidTemplate _)) => True
  | .failed (.config _) => True
  | _ => False

namespace Run

variable {configuration : Configuration}

theorem not_belated_of_answered (report : StepReport) (policy : WarningPolicy)
    (answer : Except RunError Completion) :
    ¬(report.answered policy answer).outcome.IsBelated := by
  intro belated
  cases answer with
  | error error =>
      change (Outcome.failed (report.operation.runError error)).IsBelated at belated
      cases error <;> exact belated
  | ok completion =>
      change (report.operation.classify policy completion).IsBelated at belated
      rcases classify_cases report.operation policy completion with
        ⟨_, outcome⟩ | ⟨_, _, outcome⟩ | ⟨_, _, _, outcome⟩ | ⟨_, _, _, outcome⟩ <;>
      · rw [outcome] at belated
        exact belated

theorem not_belated_of_session (answer : Except RunError Completion) :
    ¬(sessionReport answer).outcome.IsBelated := by
  intro belated
  unfold sessionReport at belated
  cases answer with
  | error error => cases error <;> exact belated
  | ok completion =>
      simp only at belated
      split at belated
      · exact belated
      · exact belated

theorem Concluded.not_belated {report : StepReport} (concluded : Concluded configuration report)
    (usable : Template.Usable configuration.template) : ¬report.outcome.IsBelated := by
  cases concluded with
  | unnamed unnamed =>
      -- The template is at fault only when it is no usable one.
      rw [Template.error_of_usable usable unnamed]
      exact not_false
  | answered answer => exact not_belated_of_answered _ _ answer
  | unwritten cause => exact not_false
  | session answer => exact not_belated_of_session answer

theorem resolve_of_single
    (single : configuration.bootstrapSource = none ∨ configuration.compilerImage = none) :
    ∃ mode, Mode.resolve configuration = .ok mode := by
  cases sourced : configuration.bootstrapSource with
  | some source =>
      rw [sourced] at single
      exact ⟨.bootstrap, resolve_bootstrap sourced (single.resolve_left (Option.some_ne_none _))⟩
  | none =>
      by_cases formed : configuration.forms = []
      · by_cases given : configuration.inputs = []
        · exact ⟨.interactive, resolve_session sourced formed given⟩
        · exact ⟨.compile false, resolve_files sourced formed given⟩
      · exact ⟨.compile true, resolve_forms sourced formed⟩

theorem error_iff_of_single
    (single : configuration.bootstrapSource = none ∨ configuration.compilerImage = none)
    (runner : Runner) (world : World) :
    (∃ error, (whole configuration runner world).1 = .error error) ↔
      configuration.bootstrapSource = none ∧ configuration.compilerImage = none := by
  have refuses := (whole_refuses configuration runner world).error_iff
  constructor
  · rintro ⟨error, refused⟩
    rcases (refuses error).mp refused with ⟨source, image, sourced, imaged, _⟩ | ⟨sourced, imaged, _⟩
    · rw [sourced, imaged] at single
      rcases single with impossible | impossible <;> cases impossible
    · exact ⟨sourced, imaged⟩
  · rintro ⟨sourced, imaged⟩
    exact ⟨_, (refuses _).mpr (Or.inr ⟨sourced, imaged, rfl⟩)⟩

/-- What holds of a configuration that a request was checked into, as seen from a directory. -/
structure Ready (request : Request) (directory : Path) (configuration : Configuration) : Prop where
  jobs : 1 ≤ configuration.jobs
  single : configuration.bootstrapSource = none ∨ configuration.compilerImage = none
  named : ∀ image, request.image = some image →
    configuration.compilerImage = some (directory.anchor image)
  staged : request.image = none → request.bootstrap = none →
    configuration.compilerImage = request.stage.map request.toolchain.stagedImage
  imageless : request.image = none → request.bootstrap ≠ none → configuration.compilerImage = none
  resolved : ∃ mode, Mode.resolve configuration = .ok mode
  timely : ∀ runner world summary, (whole configuration runner world).1 = .ok summary →
    ∀ step ∈ summary.steps, ¬step.outcome.IsBelated
  fails_iff : ∀ runner world, (∃ error, (whole configuration runner world).1 = .error error) ↔
    configuration.bootstrapSource = none ∧ configuration.compilerImage = none

theorem ready_of_check {request : Request} {directory : Path}
    (checked : request.check directory = .ok configuration) :
    Ready request directory configuration := by
  obtain ⟨apart, usable, positive, rfl⟩ := Request.settled_of_check checked
  have single : request.bootstrapSource? directory = none ∨
      request.chosenImage? directory = none := by
    unfold Request.bootstrapSource? Request.chosenImage?
    cases sourced : request.bootstrap with
    | none => exact Or.inl rfl
    | some source =>
        cases imaged : request.image with
        | none => exact Or.inr rfl
        | some image => exact absurd ⟨by simp [sourced], by simp [imaged]⟩ apart
  refine ⟨positive, single, ?_, ?_, ?_, resolve_of_single single, ?_, error_iff_of_single single⟩
  · intro image imaged
    change request.chosenImage? directory = _
    unfold Request.chosenImage?
    rw [imaged]
  · intro imageless sourceless
    change request.chosenImage? directory = _
    unfold Request.chosenImage?
    rw [imageless, sourceless]
    rfl
  · intro imageless sourced
    change request.chosenImage? directory = _
    unfold Request.chosenImage?
    obtain ⟨source, given⟩ := Option.ne_none_iff_exists'.mp sourced
    rw [imageless, given]
  · intro runner world summary ran step member
    exact (whole_concluded ran step member).not_belated usable

/-- However a request came about, it is judged by the names it holds, then its template, then its
jobs; and a configuration that comes out of the check is not found wanting in any run, unless there
is nothing in it to run. -/
theorem checked_once (root directory : Path) (wishes : List Wish) :
    (Request.ofWishes root wishes).Judged directory ∧
      ∀ configuration, (Request.ofWishes root wishes).check directory = .ok configuration →
        Ready (Request.ofWishes root wishes) directory configuration :=
  ⟨Request.judged _ directory, fun _ checked => ready_of_check checked⟩

/-- Of two wishes for a number of jobs the later one counts, and the stage stands for an image. -/
def stagedWishes : List Wish :=
  [.jobs 0, .stage (some 2), .template "out/\x7b\x7d.wasm", .inputs [.ofText "a.ss"], .jobs 3]

def stagedConfiguration : Configuration :=
  { compilerImage := some (.ofText "/opt/build/lib/compiler2.wasm")
    template := "out/\x7b\x7d.wasm"
    inputs := [.ofText "a.ss"]
    jobs := 3
    toolchain := .standard (.ofText "/opt") }

theorem stagedWishes_ready :
    (Request.ofWishes (.ofText "/opt") stagedWishes).check (.ofText "/work") =
        .ok stagedConfiguration ∧
      Ready (Request.ofWishes (.ofText "/opt") stagedWishes) (.ofText "/work")
        stagedConfiguration := by
  have checked : (Request.ofWishes (.ofText "/opt") stagedWishes).check (.ofText "/work") =
      .ok stagedConfiguration := by decide +kernel
  exact ⟨checked, (checked_once (.ofText "/opt") (.ofText "/work") stagedWishes).2 _ checked⟩

end Run

end CompilerDriver
