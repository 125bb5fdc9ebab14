import CompilerDriver.Proofs.Run.Reach
import CompilerDriver.Proofs.Run.Whole

/-!
Refusals. A run, and each of the steps it is made of, is refused for what its configuration lacks
and for nothing else. A refusal comes before anything has happened: no call was made and no file was
written. In particular no file of a batch is compiled by a run that ends in an error.
-/

namespace CompilerDriver

/-- Between the two worlds no call was made, no file was written and no time went by. Log records do
not count. -/
structure World.Untouched (world next : World) : Prop where
  time : next.time = world.time
  calls : next.calls = world.calls
  tree : next.tree = world.tree
  starts : next.starts = world.starts
  ends : next.ends = world.ends

theorem World.Untouched.refl (world : World) : world.Untouched world :=
  ⟨rfl, rfl, rfl, rfl, rfl⟩

theorem World.untouched_log (world : World) (record : Record) :
    world.Untouched (world.log record) := by
  refine ⟨rfl, rfl, rfl, world.log_starts record, ?_⟩
  simp [World.ends, World.log]

namespace Run

/-- A result is an error exactly for the given reasons, and then the world is as it was. -/
structure Refuses {Value : Type} (world : World) (result : Except ConfigError Value × World)
    (reason : ConfigError → Prop) : Prop where
  error_iff : ∀ error, result.1 = .error error ↔ reason error
  untouched : ∀ error, result.1 = .error error → world.Untouched result.2

variable {configuration : Configuration} {runner : Runner} {world : World}

theorem refuses_of_setting {Value : Type} {result : Except ConfigError Value × World}
    {setting : Option Path} {missing : ConfigError}
    (refused : setting = none → result = (.error missing, world))
    (granted : ∀ path, setting = some path → ∃ value last, result = (.ok value, last)) :
    Refuses world result fun error => setting = none ∧ error = missing := by
  cases set : setting with
  | none =>
      rw [refused set]
      constructor
      · intro error
        constructor
        · intro same
          cases same
          exact ⟨rfl, rfl⟩
        · rintro ⟨-, rfl⟩
          rfl
      · intro error _
        exact World.Untouched.refl world
  | some path =>
      obtain ⟨value, last, ran⟩ := granted path set
      rw [ran]
      constructor
      · intro error
        constructor
        · intro same
          cases same
        · rintro ⟨unset, -⟩
          cases unset
      · intro error same
        cases same

theorem bootstrap_refuses (configuration : Configuration) (runner : Runner) (world : World) :
    Refuses world (bootstrap configuration runner world) fun error =>
      configuration.bootstrapSource = none ∧ error = .missingSource := by
  apply refuses_of_setting
  · intro unset
    unfold bootstrap Configuration.source
    rw [unset]
  · intro source sourced
    cases named : Template.outputFor configuration.template source with
    | error error => exact ⟨_, _, bootstrap_unnamed sourced named runner world⟩
    | ok target =>
        obtain ⟨last, ran, _⟩ := bootstrap_ran sourced named runner world
        exact ⟨_, last, ran⟩

theorem compile_refuses (configuration : Configuration) (runner : Runner) (world : World) :
    Refuses world (compile configuration runner world) fun error =>
      configuration.compilerImage = none ∧ error = .missingImage := by
  apply refuses_of_setting
  · exact compile_missing
  · intro image imaged
    obtain ⟨last, done, _, _, ran, _⟩ := compile_reached runner imaged world
    exact ⟨done, last, ran⟩

theorem evaluate_refuses (configuration : Configuration) (runner : Runner) (world : World) :
    Refuses world (evaluate configuration runner world) fun error =>
      configuration.compilerImage = none ∧ error = .missingImage := by
  apply refuses_of_setting
  · intro unset
    unfold evaluate Configuration.image
    rw [unset]
  · intro image imaged
    obtain ⟨last, ran, _⟩ := evaluate_ran imaged runner world
    exact ⟨_, last, ran⟩

theorem interact_refuses (configuration : Configuration) (runner : Runner) (world : World) :
    Refuses world (interact configuration runner world) fun error =>
      configuration.compilerImage = none ∧ error = .missingImage := by
  apply refuses_of_setting
  · exact interact_missing
  · intro image imaged
    obtain ⟨last, ran, _⟩ := interact_ran imaged runner world
    exact ⟨_, last, ran⟩

theorem whole_of_source {source : Path} (runner : Runner) (world : World)
    (sourced : configuration.bootstrapSource = some source)
    (bare : configuration.compilerImage = none) :
    ∃ summary last, whole configuration runner world = (.ok summary, last) := by
  cases named : Template.outputFor configuration.template source with
  | error error =>
      exact ⟨_, _, whole_of_bootstrap sourced bare (bootstrap_unnamed sourced named runner _)⟩
  | ok target =>
      obtain ⟨last, ran, _⟩ := bootstrap_ran sourced named runner (modeWorld .bootstrap world)
      exact ⟨_, last, whole_of_bootstrap sourced bare ran⟩

/-- An image without a source is enough for a run, whatever there is to do. The steps after the
first ask for the same image, so none of them is refused once a batch has begun. -/
theorem whole_of_image {image : Path} (runner : Runner) (world : World)
    (unsourced : configuration.bootstrapSource = none)
    (imaged : configuration.compilerImage = some image) :
    ∃ summary last, whole configuration runner world = (.ok summary, last) := by
  by_cases formless : configuration.forms = []
  · by_cases empty : configuration.inputs = []
    · obtain ⟨last, ran, _⟩ := interact_ran imaged runner (modeWorld .interactive world)
      exact ⟨_, last, whole_of_session unsourced formless empty ran⟩
    · obtain ⟨last, reports, _, _, ran, _⟩ :=
        compile_reached runner imaged (modeWorld (.compile false) world)
      exact ⟨_, last, whole_of_files unsourced formless empty ran⟩
  · obtain ⟨next, reports, _, _, compiled, _⟩ :=
      compile_reached runner imaged (modeWorld (.compile true) world)
    obtain ⟨last, evaluated, _⟩ := evaluate_ran imaged runner next
    exact ⟨_, last, whole_of_forms unsourced formless compiled evaluated⟩

theorem whole_refuses (configuration : Configuration) (runner : Runner) (world : World) :
    Refuses world (whole configuration runner world) fun error =>
      (∃ source image, configuration.bootstrapSource = some source ∧
        configuration.compilerImage = some image ∧ error = .conflict source image) ∨
      configuration.bootstrapSource = none ∧ configuration.compilerImage = none ∧
        error = .missingImage := by
  cases sourced : configuration.bootstrapSource with
  | none =>
      cases imaged : configuration.compilerImage with
      | none =>
          obtain ⟨mode, refused⟩ := whole_of_missing runner world sourced imaged
          rw [refused]
          constructor
          · intro error
            simp [eq_comm]
          · intro error _
            exact world.untouched_log _
      | some image =>
          obtain ⟨summary, last, ran⟩ := whole_of_image runner world sourced imaged
          rw [ran]
          constructor <;> simp
  | some source =>
      cases imaged : configuration.compilerImage with
      | none =>
          obtain ⟨summary, last, ran⟩ := whole_of_source runner world sourced imaged
          rw [ran]
          constructor <;> simp
      | some image =>
          rw [whole_conflict sourced imaged]
          constructor
          · intro error
            simp [eq_comm]
          · intro error _
            exact World.Untouched.refl world

/-- A run ends in an error exactly when it has both a source and an image, or neither of them; a
step on its own does exactly when the one of the two that it needs is missing. After an error no
call has been made and no file written. -/
theorem refused_untouched (configuration : Configuration) (runner : Runner) (world : World) :
    Refuses world (whole configuration runner world)
      (fun error =>
        (∃ source image, configuration.bootstrapSource = some source ∧
          configuration.compilerImage = some image ∧ error = .conflict source image) ∨
        configuration.bootstrapSource = none ∧ configuration.compilerImage = none ∧
          error = .missingImage) ∧
    Refuses world (bootstrap configuration runner world)
      (fun error => configuration.bootstrapSource = none ∧ error = .missingSource) ∧
    Refuses world (compile configuration runner world)
      (fun error => configuration.compilerImage = none ∧ error = .missingImage) ∧
    Refuses world (evaluate configuration runner world)
      (fun error => configuration.compilerImage = none ∧ error = .missingImage) ∧
    Refuses world (interact configuration runner world)
      (fun error => configuration.compilerImage = none ∧ error = .missingImage) :=
  ⟨whole_refuses configuration runner world, bootstrap_refuses configuration runner world,
    compile_refuses configuration runner world, evaluate_refuses configuration runner world,
    interact_refuses configuration runner world⟩

end Run

end CompilerDriver
