import CompilerDriver.Proofs.Run.Launches

/-!
No step claims more than its call bears out. Every report of a run is read beside the call that its
step made, if it made one, and beside what the runner replied to that very call. A success needs a
completion with status zero, and every failure names what went wrong, no more and no less.
-/

namespace CompilerDriver

/-- Why a step counts as failed, when its call was made and its program started. -/
def StepReport.reason? (report : StepReport) : Option FailureReason :=
  report.outcome.error?.bind StepError.reason?

namespace Run

/-- What a report owes to the answer that the call of its step got; a step without a call has none.
A session has the terminal to itself and is left out where only captured output can decide. -/
structure Accounted (policy : WarningPolicy) (report : StepReport)
    (answer? : Option (Except RunError Completion)) : Prop where
  success : report.operation ≠ .interact → report.outcome = .success →
    ∃ completion, report.completion = some completion ∧ completion.status = 0 ∧
      completion.stderr = []
  warnings : report.outcome = .warnings →
    ∃ completion, report.completion = some completion ∧ completion.status = 0 ∧
      completion.stderr ≠ [] ∧ policy = .surface
  exited : report.operation ≠ .interact → ∀ status stderr,
    report.reason? = some (.exited status stderr) ↔
      ∃ completion, report.completion = some completion ∧ completion.status ≠ 0 ∧
        completion.status = status ∧ completion.stderrText = stderr
  warned : ∀ stderr,
    report.reason? = some (.warned stderr) ↔
      ∃ completion, report.completion = some completion ∧ completion.status = 0 ∧
        completion.stderr ≠ [] ∧ policy = .fail ∧ completion.stderrText = stderr
  untargeted : report.operation ≠ .interact →
    (report.target = none ↔ ∃ error, report.outcome = .failed (.template error))
  unnamed : ∀ error, report.outcome = .failed (.template error) →
    report.completion = none ∧ answer? = none
  completed : ∀ completion, report.completion = some completion →
    answer? = some (.ok completion)
  unanswered : ∀ error, answer? = some (.error error) →
    report.completion = none ∧ report.outcome = .failed (report.operation.runError error)
  notStarted : ∀ program cause,
    report.outcome = .failed (.notStarted program cause) ↔
      answer? = some (.error (.spawn program cause))
  timedOut : ∀ after,
    report.reason? = some (.timedOut after) ↔
      ∃ program, answer? = some (.error (.timeout program after))
  lost : ∀ message,
    report.reason? = some (.lost message) ↔
      ∃ program cause, answer? = some (.error (.wait program cause)) ∧ cause.message = message
  unwritten : ∀ path cause, report.outcome = .failed (.write path cause) →
    report.target = some (.file path) ∧ ∃ completion, report.completion = some completion ∧
      completion.status = 0 ∧ (completion.stderr = [] ∨ policy = .surface)
  owned : ∀ operation reason, report.outcome = .failed (.failed operation reason) →
    operation = report.operation

variable {policy : WarningPolicy}

theorem reason?_eq_some_iff {report : StepReport} {reason : FailureReason} :
    report.reason? = some reason ↔
      ∃ operation, report.outcome = .failed (.failed operation reason) := by
  constructor
  · intro found
    obtain ⟨error, failed, said⟩ := Option.bind_eq_some_iff.mp found
    cases outcome : report.outcome with
    | success =>
        rw [outcome] at failed
        cases failed
    | warnings =>
        rw [outcome] at failed
        cases failed
    | failed other =>
        rw [outcome] at failed
        cases failed
        cases error with
        | failed operation other =>
            cases said
            exact ⟨operation, rfl⟩
        | config | template | notStarted | write => cases said
  · rintro ⟨operation, outcome⟩
    unfold StepReport.reason?
    rw [outcome]
    rfl

theorem incomplete {report : StepReport} (blank : report.completion = none)
    (claim : Completion → Prop) :
    ¬∃ completion, report.completion = some completion ∧ claim completion := by
  rintro ⟨completion, found, _⟩
  cases blank.symm.trans found

/-- A step whose call came to no completion. What went wrong is all that its report says. -/
theorem accounted_of_runError {report : StepReport} (blank : report.completion = none)
    (aimed : report.operation ≠ .interact → report.target ≠ none) (error : RunError) :
    Accounted policy (report.fail (report.operation.runError error)) (some (.error error)) where
  success _ impossible := Outcome.noConfusion impossible
  warnings impossible := Outcome.noConfusion impossible
  exited _ status stderr := by
    refine iff_of_false ?_ (incomplete blank _)
    cases error <;> exact nofun
  warned stderr := by
    refine iff_of_false ?_ (incomplete blank _)
    cases error <;> exact nofun
  untargeted captured := by
    refine iff_of_false (aimed captured) ?_
    rintro ⟨_, failed⟩
    cases error <;> cases failed
  unnamed _ failed := by
    cases error <;> cases failed
  completed completion found := by
    cases blank.symm.trans found
  unanswered other same := by
    cases same
    exact ⟨blank, rfl⟩
  notStarted program cause := by
    cases error with
    | spawn named found =>
        constructor
        · intro failed
          cases failed
          rfl
        · intro same
          cases same
          rfl
    | timeout | wait => exact iff_of_false nofun nofun
  timedOut after := by
    cases error with
    | timeout program waited =>
        constructor
        · intro said
          cases said
          exact ⟨program, rfl⟩
        · rintro ⟨_, same⟩
          cases same
          rfl
    | spawn | wait => exact iff_of_false nofun nofun
  lost message := by
    cases error with
    | wait program cause =>
        constructor
        · intro said
          cases said
          exact ⟨program, cause, rfl, rfl⟩
        · rintro ⟨_, _, same, rfl⟩
          cases same
          rfl
    | spawn | timeout => exact iff_of_false nofun nofun
  unwritten path cause failed := by
    cases error <;> cases failed
  owned operation reason failed := by
    cases error <;> cases failed <;> rfl

theorem classify_cases (operation : Operation) (policy : WarningPolicy)
    (completion : Completion) :
    (completion.status ≠ 0 ∧ operation.classify policy completion =
      .failed (.failed operation (.exited completion.status completion.stderrText))) ∨
    (completion.status = 0 ∧ completion.stderr = [] ∧
      operation.classify policy completion = .success) ∨
    (completion.status = 0 ∧ completion.stderr ≠ [] ∧ policy = .surface ∧
      operation.classify policy completion = .warnings) ∨
    (completion.status = 0 ∧ completion.stderr ≠ [] ∧ policy = .fail ∧
      operation.classify policy completion =
        .failed (.failed operation (.warned completion.stderrText))) := by
  unfold Operation.classify Completion.succeeded Completion.warned
  by_cases status : completion.status = 0
  · by_cases silent : completion.stderr = []
    · exact Or.inr (Or.inl ⟨status, silent, by simp [status, silent]⟩)
    · cases policy with
      | surface =>
          exact Or.inr (Or.inr (Or.inl ⟨status, silent, rfl, by simp [status, silent]⟩))
      | fail =>
          exact Or.inr (Or.inr (Or.inr ⟨status, silent, rfl, by simp [status, silent]⟩))
  · exact Or.inl ⟨status, by simp [status]⟩

theorem classify_isFailure (operation : Operation) (policy : WarningPolicy)
    (completion : Completion) :
    (operation.classify policy completion).isFailure = false ↔
      completion.status = 0 ∧ (completion.stderr = [] ∨ policy = .surface) := by
  rcases classify_cases operation policy completion with
    ⟨status, outcome⟩ | ⟨status, silent, outcome⟩ | ⟨status, warned, surfaced, outcome⟩ |
    ⟨status, warned, failing, outcome⟩
  · simp [outcome, status, Outcome.isFailure]
  · simp [outcome, status, silent, Outcome.isFailure]
  · rw [outcome]
    simp [status, surfaced, Outcome.isFailure]
  · rw [outcome]
    simp [status, warned, failing, Outcome.isFailure]

/-- A completion fails its step for its status or for its error stream, and for nothing else. -/
theorem classify_failed_iff {operation : Operation} {completion : Completion} {error : StepError} :
    operation.classify policy completion = .failed error ↔
      (completion.status ≠ 0 ∧
        error = .failed operation (.exited completion.status completion.stderrText)) ∨
      (completion.status = 0 ∧ completion.stderr ≠ [] ∧ policy = .fail ∧
        error = .failed operation (.warned completion.stderrText)) := by
  rcases classify_cases operation policy completion with
    ⟨status, outcome⟩ | ⟨status, silent, outcome⟩ | ⟨status, warned, surfaced, outcome⟩ |
    ⟨status, warned, failing, outcome⟩
  · rw [outcome, Outcome.failed.injEq]
    simp [status, eq_comm]
  · rw [outcome]
    simp [status, silent]
  · rw [outcome]
    simp [status, surfaced]
  · rw [outcome, Outcome.failed.injEq]
    simp [status, warned, failing, eq_comm]

theorem answered_reason?_iff {report : StepReport} {completion : Completion}
    {reason : FailureReason} :
    (report.answered policy (.ok completion)).reason? = some reason ↔
      (completion.status ≠ 0 ∧ reason = .exited completion.status completion.stderrText) ∨
      (completion.status = 0 ∧ completion.stderr ≠ [] ∧ policy = .fail ∧
        reason = .warned completion.stderrText) := by
  have outcome : (report.answered policy (.ok completion)).outcome =
      report.operation.classify policy completion := rfl
  rw [reason?_eq_some_iff, outcome]
  simp only [classify_failed_iff, StepError.failed.injEq, exists_or, exists_and_left,
    exists_and_right, exists_eq, true_and]

theorem accounted_of_completion {report : StepReport} {target : Target}
    (targeted : report.target = some target) (completion : Completion) :
    Accounted policy (report.answered policy (.ok completion)) (some (.ok completion)) := by
  have failed : ∀ error, (report.answered policy (.ok completion)).outcome = .failed error →
      ∃ reason, error = .failed report.operation reason := by
    intro error same
    rcases classify_failed_iff.mp same with ⟨_, rfl⟩ | ⟨_, _, _, rfl⟩
    · exact ⟨_, rfl⟩
    · exact ⟨_, rfl⟩
  have unsaid : ∀ reason, (∀ status stderr, reason ≠ .exited status stderr) →
      (∀ stderr, reason ≠ .warned stderr) →
      (report.answered policy (.ok completion)).reason? ≠ some reason := by
    intro reason unexited unwarned said
    rcases answered_reason?_iff.mp said with ⟨_, same⟩ | ⟨_, _, _, same⟩
    · exact unexited _ _ same
    · exact unwarned _ same
  exact
    { success := by
        intro _ succeeded
        rcases classify_cases report.operation policy completion with
          ⟨_, outcome⟩ | ⟨status, silent, _⟩ | ⟨_, _, _, outcome⟩ | ⟨_, _, _, outcome⟩
        · cases outcome.symm.trans succeeded
        · exact ⟨completion, rfl, status, silent⟩
        · cases outcome.symm.trans succeeded
        · cases outcome.symm.trans succeeded
      warnings := by
        intro noisy
        rcases classify_cases report.operation policy completion with
          ⟨_, outcome⟩ | ⟨_, _, outcome⟩ | ⟨status, warned, surfaced, _⟩ | ⟨_, _, _, outcome⟩
        · cases outcome.symm.trans noisy
        · cases outcome.symm.trans noisy
        · exact ⟨completion, rfl, status, warned, surfaced⟩
        · cases outcome.symm.trans noisy
      exited := by
        intro _ status stderr
        rw [answered_reason?_iff]
        constructor
        · rintro (⟨nonzero, same⟩ | ⟨_, _, _, same⟩)
          · cases same
            exact ⟨completion, rfl, nonzero, rfl, rfl⟩
          · cases same
        · rintro ⟨_, same, nonzero, rfl, rfl⟩
          cases same
          exact Or.inl ⟨nonzero, rfl⟩
      warned := by
        intro stderr
        rw [answered_reason?_iff]
        constructor
        · rintro (⟨_, same⟩ | ⟨zero, noisy, failing, same⟩)
          · cases same
          · cases same
            exact ⟨completion, rfl, zero, noisy, failing, rfl⟩
        · rintro ⟨_, same, zero, noisy, failing, rfl⟩
          cases same
          exact Or.inr ⟨zero, noisy, failing, rfl⟩
      untargeted := by
        intro _
        refine iff_of_false ?_ ?_
        · intro none
          cases targeted.symm.trans none
        · rintro ⟨_, unnamed⟩
          obtain ⟨_, wrong⟩ := failed _ unnamed
          cases wrong
      unnamed := by
        intro _ unnamed
        obtain ⟨_, wrong⟩ := failed _ unnamed
        cases wrong
      completed := by
        intro _ same
        cases same
        rfl
      unanswered := nofun
      notStarted := by
        intro program cause
        refine iff_of_false ?_ nofun
        intro unstarted
        obtain ⟨_, wrong⟩ := failed _ unstarted
        cases wrong
      timedOut := fun _ => iff_of_false (unsaid _ nofun nofun) nofun
      lost := fun _ => iff_of_false (unsaid _ nofun nofun) nofun
      unwritten := by
        intro _ _ unwritten
        obtain ⟨_, wrong⟩ := failed _ unwritten
        cases wrong
      owned := by
        intro _ _ same
        obtain ⟨_, named⟩ := failed _ same
        cases named
        rfl }

theorem accounted_of_answered {report : StepReport} {target : Target}
    (blank : report.completion = none) (targeted : report.target = some target)
    (answer : Except RunError Completion) :
    Accounted policy (report.answered policy answer) (some answer) := by
  cases answer with
  | error error =>
      refine accounted_of_runError blank (fun _ none => ?_) error
      cases targeted.symm.trans none
  | ok completion => exact accounted_of_completion targeted completion

theorem accounted_of_unwritten {report : StepReport} {completion : Completion} {path : Path}
    (targeted : report.target = some (.file path))
    (kept : (report.answered policy (.ok completion)).outcome.isFailure = false)
    (cause : OsError) :
    Accounted policy ((report.answered policy (.ok completion)).fail (.write path cause))
      (some (.ok completion)) := by
  obtain ⟨zero, well⟩ := (classify_isFailure report.operation policy completion).mp kept
  exact
    { success := fun _ impossible => Outcome.noConfusion impossible
      warnings := fun impossible => Outcome.noConfusion impossible
      exited := by
        intro _ status stderr
        refine iff_of_false nofun ?_
        rintro ⟨_, same, nonzero, _⟩
        cases same
        exact nonzero zero
      warned := by
        intro stderr
        refine iff_of_false nofun ?_
        rintro ⟨_, same, _, noisy, failing, _⟩
        cases same
        rcases well with silent | surfaced
        · exact noisy silent
        · cases failing.symm.trans surfaced
      untargeted := by
        intro _
        refine iff_of_false ?_ nofun
        intro none
        cases targeted.symm.trans none
      unnamed := nofun
      completed := by
        intro _ same
        cases same
        rfl
      unanswered := nofun
      notStarted := fun _ _ => iff_of_false nofun nofun
      timedOut := fun _ => iff_of_false nofun nofun
      lost := fun _ => iff_of_false nofun nofun
      unwritten := by
        intro _ _ same
        cases same
        exact ⟨targeted, completion, rfl, zero, well⟩
      owned := nofun }

theorem accounted_of_unnamed {report : StepReport} (blank : report.completion = none)
    (untargeted : report.target = none) (error : TemplateError) :
    Accounted policy (report.fail (.template error)) none where
  success _ impossible := Outcome.noConfusion impossible
  warnings impossible := Outcome.noConfusion impossible
  exited _ _ _ := iff_of_false nofun (incomplete blank _)
  warned _ := iff_of_false nofun (incomplete blank _)
  untargeted _ := iff_of_true untargeted ⟨error, rfl⟩
  unnamed _ _ := ⟨blank, rfl⟩
  completed _ found := by
    cases blank.symm.trans found
  unanswered := nofun
  notStarted _ _ := iff_of_false nofun nofun
  timedOut _ := iff_of_false nofun nofun
  lost _ := iff_of_false nofun nofun
  unwritten := nofun
  owned := nofun

theorem accounted_of_ended (completion : Completion) :
    Accounted policy (sessionReport (.ok completion)) (some (.ok completion)) := by
  obtain ⟨terminal, _, blank⟩ := sessionReport_shape (.ok completion)
  have unsaid : ∀ reason, (∀ status stderr, reason ≠ .exited status stderr) →
      (sessionReport (.ok completion)).reason? ≠ some reason := by
    intro reason other said
    obtain ⟨_, outcome⟩ := reason?_eq_some_iff.mp said
    cases sessionReport_failed outcome
    exact other _ _ rfl
  exact
    { success := fun captured => absurd terminal captured
      warnings := by
        intro noisy
        unfold sessionReport at noisy
        simp only at noisy
        split at noisy <;> cases noisy
      exited := fun captured => absurd terminal captured
      warned := fun _ => iff_of_false (unsaid _ nofun) (incomplete blank _)
      untargeted := fun captured => absurd terminal captured
      unnamed := by
        intro _ same
        cases sessionReport_failed same
      completed := by
        intro _ found
        cases blank.symm.trans found
      unanswered := nofun
      notStarted := by
        intro _ _
        refine iff_of_false ?_ nofun
        intro same
        cases sessionReport_failed same
      timedOut := fun _ => iff_of_false (unsaid _ nofun) nofun
      lost := fun _ => iff_of_false (unsaid _ nofun) nofun
      unwritten := by
        intro _ _ same
        cases sessionReport_failed same
      owned := by
        intro _ _ same
        cases sessionReport_failed same
        exact terminal.symm }

theorem accounted_of_session (answer : Except RunError Completion) :
    Accounted policy (sessionReport answer) (some answer) := by
  cases answer with
  | error error => exact accounted_of_runError rfl (fun captured => absurd rfl captured) error
  | ok completion => exact accounted_of_ended completion

/-! ### Whole runs -/

variable {configuration : Configuration} {image : Path} {runner : Runner}

def answerOf (runner : Runner) (launch : Call × FileTree) : Except RunError Completion :=
  (runner launch.1 launch.2).answer

theorem Traced.accounted {stay : Stay} {report : StepReport}
    (traced : Traced configuration runner stay (.finished report)) :
    Accounted configuration.warnings report (stay.launch?.map (answerOf runner)) := by
  cases traced with
  | refused unnamed => exact accounted_of_unnamed rfl rfl _
  | @landed file time call tree target later named =>
      change Accounted _ _ (some (runner call tree).answer)
      rcases close_report configuration file target (runner call tree).answer later with
        same | ⟨path, bytes, cause, produced, same⟩
      · rw [same]
        exact accounted_of_answered rfl rfl _
      · rw [same]
        obtain ⟨goal, kept, completion, answered, _⟩ := product?_eq_some produced
        rw [answered] at kept ⊢
        exact accounted_of_unwritten (by rw [goal]; rfl) kept cause

theorem accounted_of_traced {stays : List Stay} {reports : List StepReport}
    (traced : List.Forall₂ (Traced configuration runner) stays (reports.map .finished)) :
    List.Forall₂ (Accounted configuration.warnings) reports
      (stays.map fun stay => stay.launch?.map (answerOf runner)) := by
  have paired := List.forall₂_map_right_iff.mp traced
  rw [List.forall₂_map_right_iff]
  exact List.Forall₂.flip (paired.imp fun _ _ traced => traced.accounted)

theorem starts_launches (stays : List Stay) :
    (stays.filterMap Stay.start?).map Prod.snd =
      ((stays.map Stay.launch?).filterMap id).map Prod.fst := by
  rw [starts_calls, List.filterMap_map, Function.id_comp, List.map_filterMap]
  rfl

/-- The calls between two worlds are those that steps made, and each step answers for its own. -/
def AccountedRun (policy : WarningPolicy) (runner : Runner) (world last : World)
    (steps : List StepReport) : Prop :=
  ∃ made : List (Option (Call × FileTree)),
    last.starts.map Prod.snd =
      world.starts.map Prod.snd ++ (made.filterMap id).map Prod.fst ∧
    List.Forall₂ (Accounted policy) steps (made.map fun launch? => launch?.map (answerOf runner))

variable (runner) in
theorem compile_accounted (imaged : configuration.compilerImage = some image) (world : World) :
    ∃ reports last,
      compile configuration runner world = (.ok reports, last) ∧
      AccountedRun configuration.warnings runner world last reports := by
  obtain ⟨last, reports, waiting, stays, ran, reached, _⟩ :=
    compile_reached runner imaged world
  have starts := reached.starts
  have traced := reached.traced
  simp only [Batch.slots, List.append_nil] at traced
  refine ⟨reports, last, ran, stays.map Stay.launch?, ?_, ?_⟩
  · rw [starts, List.map_append, starts_launches]
    unfold batchWorld
    rw [World.log_starts]
  · rw [List.map_map]
    exact accounted_of_traced traced

theorem accountedRun_of_oneCall {world last : World} {call : Call} {report : StepReport}
    (called : world.OneCall last runner call)
    (accounted : Accounted policy report (some (runner call world.tree).answer)) :
    AccountedRun policy runner world last [report] := by
  refine ⟨[some (call, world.tree)], ?_, .cons accounted .nil⟩
  rw [called.starts, List.map_append]
  rfl

theorem AccountedRun.append {world next last : World} {left right : List StepReport}
    (first : AccountedRun policy runner world next left)
    (second : AccountedRun policy runner next last right) :
    AccountedRun policy runner world last (left ++ right) := by
  obtain ⟨made, starts, accounted⟩ := first
  obtain ⟨others, later, remaining⟩ := second
  refine ⟨made ++ others, ?_, ?_⟩
  · rw [later, starts, List.filterMap_append, List.map_append, List.append_assoc]
  · rw [List.map_append]
    exact List.rel_append accounted remaining

theorem modeWorld_accounted {mode : Mode} {world last : World} {steps : List StepReport}
    (accounted : AccountedRun policy runner (modeWorld mode world) last steps) :
    AccountedRun policy runner world last steps := by
  obtain ⟨made, starts, all⟩ := accounted
  refine ⟨made, ?_, all⟩
  rw [starts]
  unfold modeWorld
  rw [World.log_starts]

/-- Every step of a summary answers for its own call, and the run made no other calls. -/
theorem whole_accounted (configuration : Configuration) (runner : Runner) (world : World)
    (summary : Summary) (ran : (whole configuration runner world).1 = .ok summary) :
    AccountedRun configuration.warnings runner world (whole configuration runner world).2
      summary.steps := by
  refine whole_cases ran ?_ ?_ ?_ ?_
  · intro source sourced _
    cases named : Template.outputFor configuration.template source with
    | error error =>
        refine ⟨_, _, bootstrap_unnamed sourced named runner (modeWorld .bootstrap world), ?_⟩
        refine modeWorld_accounted ⟨[none], (List.append_nil _).symm, .cons ?_ .nil⟩
        exact accounted_of_unnamed rfl rfl error
    | ok target =>
        obtain ⟨last, made, called⟩ :=
          bootstrap_ran sourced named runner (modeWorld .bootstrap world)
        refine ⟨_, last, made, ?_⟩
        exact modeWorld_accounted
          (accountedRun_of_oneCall called (accounted_of_answered rfl rfl _))
  · intro image imaged _ _
    obtain ⟨last, made, called⟩ := interact_ran imaged runner (modeWorld .interactive world)
    refine ⟨_, last, made, ?_⟩
    exact modeWorld_accounted (accountedRun_of_oneCall called (accounted_of_session _))
  · intro image imaged _ _
    obtain ⟨reports, last, made, accounted⟩ :=
      compile_accounted runner imaged (modeWorld (.compile false) world)
    exact ⟨reports, last, made, modeWorld_accounted accounted⟩
  · intro image imaged _
    obtain ⟨reports, next, made, accounted⟩ :=
      compile_accounted runner imaged (modeWorld (.compile true) world)
    obtain ⟨last, evaluated, called⟩ := evaluate_ran imaged runner next
    refine ⟨reports, next, made, _, last, evaluated, ?_⟩
    exact modeWorld_accounted (accounted.append
      (accountedRun_of_oneCall called (accounted_of_answered rfl rfl _)))

theorem twoFiles_accounted :
    ∃ summary, (whole twoFiles staggered { tree := {} }).1 = .ok summary ∧
      AccountedRun .surface staggered { tree := {} } (whole twoFiles staggered { tree := {} }).2
        summary.steps :=
  ⟨_, rfl, whole_accounted twoFiles staggered { tree := {} } _ rfl⟩

end Run

end CompilerDriver
