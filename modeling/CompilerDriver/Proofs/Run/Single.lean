import CompilerDriver.Proofs.Run.Halves

/-!
The steps that stand alone, each as one call between two worlds and one report. A bootstrap whose
target has no name makes no call at all and leaves the world as it was. The tree that such a step
leaves is the one that its call has left.
-/

namespace CompilerDriver.Run

variable {configuration : Configuration} {image source : Path}

def evaluateCommand (configuration : Configuration) (image : Path) : Command :=
  configuration.toolchain.launcherCommand configuration.runtime .evaluate image
    (configuration.forms.map Text.Utf8.encode)

def evaluateBlank : StepReport :=
  { StepReport.blank .evaluate with target := some .standardOutput }

def evaluateCall (configuration : Configuration) (image : Path) (world : World) : Call :=
  world.nextCall false (evaluateCommand configuration image)

theorem evaluate_ran (imaged : configuration.compilerImage = some image) (runner : Runner)
    (world : World) :
    ∃ last,
      evaluate configuration runner world =
        (.ok (evaluateBlank.answered configuration.warnings
          (runner (evaluateCall configuration image world) world.tree).answer), last) ∧
      world.OneCall last runner (evaluateCall configuration image world) := by
  obtain ⟨last, ran, called⟩ :=
    world.run_oneCall runner false (evaluateCommand configuration image)
      { level := .info
        message := "evaluating"
        fields :=
          [("command", .text (evaluateCommand configuration image).display),
            ("forms", .number configuration.forms.length)] }
  refine ⟨last, ?_, called⟩
  unfold evaluateCommand at ran
  simp only [evaluate, Configuration.image, imaged, ran]
  unfold evaluateCall evaluateCommand
  cases (runner (world.nextCall false _) world.tree).answer <;> rfl

def bootstrapBlank (source : Path) : StepReport :=
  { StepReport.blank .bootstrap with source := some source }

def bootstrapCall (configuration : Configuration) (target : Target) (source : Path)
    (world : World) : Call :=
  world.nextCall false (configuration.toolchain.bootstrapCommand target source)

theorem bootstrap_unnamed {error : TemplateError}
    (sourced : configuration.bootstrapSource = some source)
    (unnamed : Template.outputFor configuration.template source = .error error)
    (runner : Runner) (world : World) :
    bootstrap configuration runner world =
      (.ok ((bootstrapBlank source).fail (.template error)), world) := by
  unfold bootstrap Configuration.source
  rw [sourced]
  simp only [unnamed]
  rfl

theorem bootstrap_ran {target : Target}
    (sourced : configuration.bootstrapSource = some source)
    (named : Template.outputFor configuration.template source = .ok target)
    (runner : Runner) (world : World) :
    ∃ last,
      bootstrap configuration runner world =
        (.ok ({ bootstrapBlank source with target := some target }.answered
          configuration.warnings
          (runner (bootstrapCall configuration target source world) world.tree).answer), last) ∧
      world.OneCall last runner (bootstrapCall configuration target source world) := by
  obtain ⟨next, ran, called⟩ :=
    world.run_oneCall runner false (configuration.toolchain.bootstrapCommand target source)
      { level := .info
        message := "bootstrapping compiler"
        fields :=
          [("command", .text (configuration.toolchain.bootstrapCommand target source).display)] }
  simp only [bootstrap, Configuration.source, sourced, named, ran]
  unfold bootstrapCall
  cases (runner (world.nextCall false _) world.tree).answer with
  | error error => exact ⟨next, rfl, called⟩
  | ok completion =>
      refine ⟨noteOutput target completion next, rfl, ?_⟩
      unfold noteOutput
      split
      · exact called.log _
      · exact called

def interactCall (configuration : Configuration) (image : Path) (world : World) : Call :=
  world.nextCall true
    (configuration.toolchain.launcherCommand configuration.runtime .interact image [])

theorem sessionReport_shape (answer : Except RunError Completion) :
    (sessionReport answer).operation = .interact ∧ (sessionReport answer).target = none ∧
      (sessionReport answer).completion = none := by
  unfold sessionReport
  cases answer with
  | error error => exact ⟨rfl, rfl, rfl⟩
  | ok completion =>
      simp only
      split <;> exact ⟨rfl, rfl, rfl⟩

theorem sessionReport_failed {completion : Completion} {error : StepError}
    (failed : (sessionReport (.ok completion)).outcome = .failed error) :
    error = .failed .interact (.exited completion.status "") := by
  unfold sessionReport at failed
  simp only at failed
  split at failed <;> cases failed
  rfl

theorem interact_ran (imaged : configuration.compilerImage = some image) (runner : Runner)
    (world : World) :
    ∃ last,
      interact configuration runner world =
        (.ok (sessionReport
          (runner (interactCall configuration image world) world.tree).answer), last) ∧
      world.OneCall last runner (interactCall configuration image world) := by
  obtain ⟨last, ran, called⟩ :=
    world.run_oneCall runner true
      (configuration.toolchain.launcherCommand configuration.runtime .interact image [])
      { level := .info
        message := "starting interactive session"
        fields :=
          [("command",
            .text (configuration.toolchain.launcherCommand configuration.runtime .interact image
              []).display)] }
  refine ⟨last, ?_, called⟩
  simp only [interact, Configuration.image, imaged, ran]
  rfl

/-- The tree that a step finds when its call has ended: the one that the call left. A step that
makes no call finds everything as it was. -/
def Finds (runner : Runner) (world last : World) (found : FileTree) : Prop :=
  (last = world ∧ found = world.tree) ∨
    ∃ call, world.OneCall last runner call ∧ found = (runner call world.tree).tree

theorem run_called (runner : Runner) (attached : Bool) (command : Command) (before : Record)
    (world : World) :
    ∃ call, world.OneCall ((world.log before).run runner attached command).2 runner call ∧
      ((world.log before).run runner attached command).2.tree = (runner call world.tree).tree := by
  obtain ⟨last, ran, called⟩ := world.run_oneCall runner attached command before
  refine ⟨world.nextCall attached command, ?_, ?_⟩
  · rw [ran]
    exact called
  · rw [World.run_eq]
    rfl

theorem bootstrap_finds (configuration : Configuration) (runner : Runner) (world : World) :
    Finds runner world (bootstrap configuration runner world).2
      (bootstrap configuration runner world).2.tree := by
  unfold bootstrap
  cases configuration.source with
  | error error => exact Or.inl ⟨rfl, rfl⟩
  | ok source =>
      simp only
      cases Template.outputFor configuration.template source with
      | error error => exact Or.inl ⟨rfl, rfl⟩
      | ok target =>
          have called := run_called runner false
            (configuration.toolchain.bootstrapCommand target source)
            { level := .info
              message := "bootstrapping compiler"
              fields :=
                [("command",
                  .text (configuration.toolchain.bootstrapCommand target source).display)] } world
          simp only
          generalize World.run runner false _ _ = result at called ⊢
          obtain ⟨answer, next⟩ := result
          obtain ⟨call, only, left⟩ := called
          cases answer with
          | error error => exact Or.inr ⟨call, only, left⟩
          | ok completion =>
              simp only [noteOutput]
              split
              · exact Or.inr ⟨call, only.log _, left⟩
              · exact Or.inr ⟨call, only, left⟩

theorem evaluate_finds (configuration : Configuration) (runner : Runner) (world : World) :
    Finds runner world (evaluate configuration runner world).2
      (evaluate configuration runner world).2.tree := by
  unfold evaluate
  cases configuration.image with
  | error error => exact Or.inl ⟨rfl, rfl⟩
  | ok image =>
      have called := run_called runner false (evaluateCommand configuration image)
        { level := .info
          message := "evaluating"
          fields :=
            [("command", .text (evaluateCommand configuration image).display),
              ("forms", .number configuration.forms.length)] } world
      unfold evaluateCommand at called
      simp only
      generalize World.run runner false _ _ = result at called ⊢
      obtain ⟨answer, next⟩ := result
      cases answer <;> exact Or.inr called

theorem interact_finds (configuration : Configuration) (runner : Runner) (world : World) :
    Finds runner world (interact configuration runner world).2
      (interact configuration runner world).2.tree := by
  unfold interact
  cases configuration.image with
  | error error => exact Or.inl ⟨rfl, rfl⟩
  | ok image => exact Or.inr (run_called runner true _ _ world)

theorem Finds.kept {runner : Runner} {world last : World}
    (keeps : ∀ call tree, (runner call tree).tree = tree)
    (finds : Finds runner world last last.tree) : last.tree = world.tree := by
  rcases finds with ⟨_, same⟩ | ⟨call, _, left⟩
  · exact same
  · rw [left, keeps]

section Trees

variable {runner : Runner} (keeps : ∀ call tree, (runner call tree).tree = tree)
include keeps

theorem bootstrap_tree (configuration : Configuration) (world : World) :
    (bootstrap configuration runner world).2.tree = world.tree :=
  (bootstrap_finds configuration runner world).kept keeps

theorem evaluate_tree (configuration : Configuration) (world : World) :
    (evaluate configuration runner world).2.tree = world.tree :=
  (evaluate_finds configuration runner world).kept keeps

theorem interact_tree (configuration : Configuration) (world : World) :
    (interact configuration runner world).2.tree = world.tree :=
  (interact_finds configuration runner world).kept keeps

end Trees

end CompilerDriver.Run
