import CompilerDriver.Proofs.Run.Conclusion
import CompilerDriver.Proofs.Run.Independence

/-!
Warnings that count as failures. A strict run and a lenient run of one configuration launch the same
commands, and each strict step follows from the lenient one: a step with diagnostics that had not
failed over its process fails over them, and every other step stays as it is. The strict run writes
the modules of the processes that did well in silence, as each of them would be written alone.
-/

namespace CompilerDriver

def Configuration.under (configuration : Configuration) (policy : WarningPolicy) : Configuration :=
  { configuration with warnings := policy }

theorem Completion.warned_eq_false {completion : Completion} (silent : completion.stderr = []) :
    completion.warned = false := by
  unfold warned
  rw [silent]
  rfl

theorem Completion.warned_eq_true {completion : Completion} (noisy : completion.stderr ≠ []) :
    completion.warned = true := by
  unfold warned
  rw [List.isEmpty_eq_false_iff.mpr noisy]
  rfl

namespace FileTree

theorem Union.filterMap {Item : Type} {base tree : FileTree} {items : List Item}
    {part : Item → FileTree} {pick : Item → Option Item}
    (picks : ∀ item, pick item = some item ∨ pick item = none ∧ part item = base)
    (union : Union base (items.map part) tree) :
    Union base ((items.filterMap pick).map part) tree := by
  intro place
  constructor
  · intro made member changed
    obtain ⟨item, picked, rfl⟩ := List.mem_map.mp member
    obtain ⟨source, inside, same⟩ := List.mem_filterMap.mp picked
    refine (union place).1 (part item) (List.mem_map.mpr ⟨source, inside, ?_⟩) changed
    rcases picks source with kept | ⟨dropped, _⟩
    · rw [Option.some.inj (kept.symm.trans same)]
    · rw [dropped] at same
      cases same
  · intro unchanged
    refine (union place).2 ?_
    intro made member
    obtain ⟨item, inside, rfl⟩ := List.mem_map.mp member
    rcases picks item with kept | ⟨_, bare⟩
    · have picked : item ∈ items.filterMap pick := List.mem_filterMap.mpr ⟨item, inside, kept⟩
      exact unchanged (part item) (List.mem_map_of_mem picked)
    · rw [bare]

end FileTree

namespace StepReport

def complaint (report : StepReport) : StepError :=
  .failed report.operation (.warned ((report.completion.map Completion.stderrText).getD ""))

def isNoisy (report : StepReport) : Bool :=
  report.completion.any Completion.warned

/-- What a step comes to when its warnings count as failures. They are looked at before the module
is written, so they come before a module that could not be. -/
def hardened (report : StepReport) : StepReport :=
  match report.outcome with
  | .warnings => report.fail report.complaint
  | .failed (.write _ _) => if report.isNoisy then report.fail report.complaint else report
  | _ => report

/-- The file of a compile step whose process did well and wrote no diagnostics. -/
def quietFile? (report : StepReport) : Option Path :=
  match report.operation, report.completion with
  | .compile file, some completion =>
      if completion.status = 0 ∧ completion.stderr = [] then some file else none
  | _, _ => none

theorem hardened_runError (report : StepReport) (operation : Operation) (error : RunError) :
    (report.fail (operation.runError error)).hardened = report.fail (operation.runError error) := by
  cases error <;> rfl

theorem answered_hardened (report : StepReport) (answer : Except RunError Completion) :
    report.answered .fail answer = (report.answered .surface answer).hardened := by
  cases answer with
  | error error => exact (hardened_runError report report.operation error).symm
  | ok completion =>
      unfold answered hardened Operation.classify
      by_cases succeeded : completion.succeeded
      · by_cases warned : completion.warned
        · simp [succeeded, warned, fail, complaint]
        · simp [succeeded, warned]
      · simp [succeeded]

theorem hardened_unwritten (report : StepReport) (path : Path) (cause : OsError) :
    (report.fail (.write path cause)).hardened =
      if report.isNoisy then report.fail report.complaint else report.fail (.write path cause) := rfl

theorem hardened_operation (report : StepReport) : report.hardened.operation = report.operation := by
  unfold hardened
  cases report.outcome with
  | success | warnings => rfl
  | failed error =>
      cases error with
      | write path cause => cases report.isNoisy <;> rfl
      | config | template | notStarted | failed => rfl

theorem quietFile?_eq_none {report : StepReport} (other : ∀ file, report.operation ≠ .compile file) :
    report.quietFile? = none := by
  unfold quietFile?
  cases operation : report.operation with
  | compile file => exact absurd operation (other file)
  | bootstrap | evaluate | interact => rfl

theorem hardened_of_warnings {report : StepReport} (outcome : report.outcome = .warnings) :
    report.hardened = report.fail report.complaint := by
  unfold hardened
  rw [outcome]

theorem isFailure_hardened {report : StepReport} (failed : report.outcome.isFailure = true) :
    report.hardened.outcome.isFailure = true := by
  unfold hardened
  cases outcome : report.outcome with
  | success =>
      rw [outcome] at failed
      cases failed
  | warnings => rfl
  | failed error =>
      cases error with
      | write path cause =>
          simp only
          split
          · rfl
          · exact failed
      | config | template | notStarted | failed => exact failed

end StepReport

namespace Run

open FileTree

variable {configuration : Configuration} {image file : Path} {target : Target}
  {answer : Command → Except RunError Completion} {runner : Runner}

theorem sessionReport_hardened (answer : Except RunError Completion) :
    (sessionReport answer).hardened = sessionReport answer := by
  unfold sessionReport
  cases answer with
  | error error => exact StepReport.hardened_runError _ .interact error
  | ok completion =>
      simp only
      split <;> rfl

theorem product?_of_failure {outcome : Outcome} (failed : outcome.isFailure = true)
    (answer : Except RunError Completion) : product? target answer outcome = none := by
  unfold product?
  cases target with
  | standardOutput => rfl
  | file path =>
      cases answer with
      | error error => rfl
      | ok completion => simp only [failed, if_true]

theorem close_completion (configuration : Configuration) (file : Path) (target : Target)
    (answer : Except RunError Completion) (tree : FileTree) :
    (close configuration file target answer tree).report.completion = answer.toOption := by
  have answered : ((targeted file target).answered configuration.warnings answer).completion =
      answer.toOption := by
    cases answer <;> rfl
  rcases close_report configuration file target answer tree with same | ⟨path, _, cause, _, same⟩
  · rw [same]
    exact answered
  · rw [same]
    exact answered

/-- Where diagnostics count as failures, only a process that did well in silence has its module
written. -/
theorem close_strict {completion : Completion}
    (unwell : ¬(completion.status = 0 ∧ completion.stderr = [])) (tree : FileTree) :
    close (configuration.under .fail) file target (.ok completion) tree =
      { report := (targeted file target).answered .fail (.ok completion), tree := tree } := by
  refine close_of_none (product?_of_failure ?_ _)
  have failing : (Operation.classify (.compile file) .fail completion).isFailure ≠ false := by
    intro kept
    obtain ⟨status, silent | surfaced⟩ := (classify_isFailure _ _ _).mp kept
    · exact unwell ⟨status, silent⟩
    · cases surfaced
  exact (Bool.not_eq_false _).mp failing

theorem answered_quiet {answer : Except RunError Completion}
    (quiet : ∀ completion, answer = .ok completion → completion.stderr = []) (report : StepReport) :
    report.answered .fail answer = report.answered .surface answer := by
  cases answer with
  | error error => rfl
  | ok completion =>
      have silent : completion.warned = false := Completion.warned_eq_false (quiet completion rfl)
      unfold StepReport.answered Operation.classify
      simp only [silent, Bool.not_false, if_true]

theorem warnings_of_kept {report : StepReport} {completion : Completion}
    (kept : (report.answered .surface (.ok completion)).outcome.isFailure = false)
    (noisy : completion.stderr ≠ []) :
    (report.answered .surface (.ok completion)).outcome = .warnings := by
  have status := ((classify_isFailure report.operation .surface completion).mp kept).1
  rcases classify_cases report.operation .surface completion with
    ⟨other, _⟩ | ⟨_, silent, _⟩ | ⟨_, _, _, outcome⟩ | ⟨_, _, failing, _⟩
  · exact absurd status other
  · exact absurd silent noisy
  · exact outcome
  · cases failing

theorem close_isNoisy (configuration : Configuration) (file : Path) (target : Target)
    (answer : Except RunError Completion) (tree : FileTree) :
    (close configuration file target answer tree).report.isNoisy =
      answer.toOption.any Completion.warned := by
  unfold StepReport.isNoisy
  rw [close_completion]

variable (configuration file target) in
theorem close_quiet {answer : Except RunError Completion}
    (quiet : ∀ completion, answer = .ok completion → completion.stderr = []) (tree : FileTree) :
    (close (configuration.under .fail) file target answer tree).report =
      (close (configuration.under .surface) file target answer tree).report.hardened := by
  have answers := StepReport.answered_hardened (targeted file target) answer
  have noise := close_isNoisy (configuration.under .surface) file target answer tree
  have silent : answer.toOption.any Completion.warned = false := by
    cases answer with
    | error error => rfl
    | ok completion => exact Completion.warned_eq_false (quiet completion rfl)
  have same : (targeted file target).answered (configuration.under .fail).warnings answer =
      (targeted file target).answered (configuration.under .surface).warnings answer :=
    answered_quiet quiet (targeted file target)
  have closes : close (configuration.under .fail) file target answer tree =
      close (configuration.under .surface) file target answer tree := by
    unfold close
    simp only [same]
  rw [closes]
  rcases close_report (configuration.under .surface) file target answer tree with
    plain | ⟨path, bytes, cause, _, unwritten⟩
  · rw [plain]
    exact same.symm.trans answers
  · rw [unwritten] at noise ⊢
    have unheard : ((targeted file target).answered (configuration.under .surface).warnings
        answer).isNoisy = false := noise.trans silent
    rw [StepReport.hardened_unwritten, unheard]
    rfl

variable (configuration file target) in
theorem close_noisy {completion : Completion} (noisy : completion.stderr ≠ []) (tree : FileTree) :
    (close (configuration.under .fail) file target (.ok completion) tree).report =
      (close (configuration.under .surface) file target (.ok completion) tree).report.hardened := by
  have answers := StepReport.answered_hardened (targeted file target) (.ok completion)
  have noise := close_isNoisy (configuration.under .surface) file target (.ok completion) tree
  rw [close_strict fun well => noisy well.2]
  rcases close_report (configuration.under .surface) file target (.ok completion) tree with
    plain | ⟨path, bytes, cause, produced, unwritten⟩
  · rw [plain]
    exact answers
  · have kept := (product?_eq_some produced).2.1
    have outcome := warnings_of_kept kept noisy
    rw [unwritten] at noise ⊢
    have heard : ((targeted file target).answered (configuration.under .surface).warnings
        (.ok completion)).isNoisy = true := noise.trans (Completion.warned_eq_true noisy)
    rw [StepReport.hardened_unwritten, if_pos heard]
    exact answers.trans (StepReport.hardened_of_warnings outcome)

theorem close_hardened (configuration : Configuration) (file : Path) (target : Target)
    (answer : Except RunError Completion) (tree : FileTree) :
    (close (configuration.under .fail) file target answer tree).report =
      (close (configuration.under .surface) file target answer tree).report.hardened := by
  by_cases quiet : ∀ completion, answer = .ok completion → completion.stderr = []
  · exact close_quiet configuration file target quiet tree
  · obtain ⟨completion, answered⟩ := not_forall.mp quiet
    obtain ⟨rfl, noisy⟩ := Classical.not_imp.mp answered
    exact close_noisy configuration file target noisy tree

theorem solo_hardened (configuration : Configuration) (image : Path)
    (answer : Command → Except RunError Completion) (tree : FileTree) (file : Path) :
    (solo (configuration.under .fail) image answer tree file).1 =
      (solo (configuration.under .surface) image answer tree file).1.hardened := by
  cases named : Template.outputFor configuration.template file with
  | error error =>
      have unnamed : ∀ policy, Template.outputFor (configuration.under policy).template file =
          .error error := fun _ => named
      rw [solo_of_unnamed (unnamed .fail), solo_of_unnamed (unnamed .surface)]
      rfl
  | ok target =>
      have aimed : ∀ policy, Template.outputFor (configuration.under policy).template file =
          .ok target := fun _ => named
      rw [solo_of_named (aimed .fail), solo_of_named (aimed .surface)]
      exact close_hardened configuration file target _ tree

theorem solo_quiet (configuration : Configuration) (image : Path)
    (answer : Command → Except RunError Completion) (tree : FileTree) (file : Path) :
    (solo (configuration.under .fail) image answer tree file).1.quietFile? = some file ∨
      (solo (configuration.under .fail) image answer tree file).1.quietFile? = none ∧
        (solo (configuration.under .fail) image answer tree file).2 = tree := by
  cases named : Template.outputFor (configuration.under .fail).template file with
  | error error =>
      rw [solo_of_unnamed named]
      exact Or.inr ⟨rfl, rfl⟩
  | ok target =>
      rw [solo_of_named named]
      generalize answer (compileCommand (configuration.under .fail) image file) = reached
      have operation := (close_operation (configuration.under .fail) file target reached tree).1
      have completed := close_completion (configuration.under .fail) file target reached tree
      unfold StepReport.quietFile?
      simp only [operation, completed]
      cases reached with
      | error error =>
          refine Or.inr ⟨rfl, ?_⟩
          rw [close_of_none (product?_of_failure rfl _)]
      | ok completion =>
          simp only [Except.toOption]
          by_cases well : completion.status = 0 ∧ completion.stderr = []
          · rw [if_pos well]
            exact Or.inl rfl
          · rw [if_neg well]
            refine Or.inr ⟨rfl, ?_⟩
            rw [close_strict well]

/-! ### Batches -/

/-- What a strict step owes to the lenient one. Only in a template that climbs may the two find the
same file in the way of a directory and meet it with different errors. -/
def Hardens (template : String) (lenient strict : StepReport) : Prop :=
  strict = lenient.hardened ∨
    ¬Steps template ∧
      (AlikeReport lenient.hardened strict ∨ AlikeReport strict lenient.hardened)

theorem hardens_of_alike {template : String} {alone lenient strict : StepReport}
    (climbs : ¬Steps template) (before : AlikeReport alone lenient)
    (after : AlikeReport alone.hardened strict) : Hardens template lenient strict := by
  rcases before with same | ⟨path, taken, met⟩
  · rw [same]
    exact Or.inr ⟨climbs, Or.inl after⟩
  · -- The lenient step met the file in the other way, which counts when it wrote no diagnostics.
    have outcome : alone.hardened = if alone.isNoisy then alone.fail alone.complaint else alone := by
      unfold StepReport.hardened
      rw [taken]
    have turned : lenient.hardened = if alone.isNoisy then alone.fail alone.complaint else lenient := by
      rw [met]
      rfl
    by_cases noisy : alone.isNoisy = true
    · rw [if_pos noisy] at outcome turned
      rw [outcome, ← turned] at after
      exact Or.inr ⟨climbs, Or.inl after⟩
    · rw [if_neg noisy] at outcome turned
      rw [outcome] at after
      rcases after with same | ⟨other, found, meets⟩
      · refine Or.inr ⟨climbs, Or.inr ?_⟩
        rw [same, turned]
        exact Or.inr ⟨path, taken, met⟩
      · left
        rw [taken] at found
        cases found
        rw [turned, met, meets]

theorem hardens_of_fair {base : FileTree} {file : Path} {lenient strict : StepReport}
    (before : Fair (configuration.under .surface) image answer base file (.finished lenient))
    (after : Fair (configuration.under .fail) image answer base file (.finished strict)) :
    Hardens configuration.template lenient strict := by
  obtain ⟨alike, level⟩ := before
  obtain ⟨strictAlike, strictLevel⟩ := after
  have alone := solo_hardened configuration image answer base file
  by_cases steps : Steps configuration.template
  · left
    rw [strictLevel steps, level steps, alone]
  · rw [alone] at strictAlike
    exact hardens_of_alike steps alike strictAlike

theorem forall₂_join {α β γ : Type} {left : α → β → Prop} {right : α → γ → Prop}
    {both : β → γ → Prop} (join : ∀ item one other, left item one → right item other → both one other)
    {items : List α} {ones : List β} {others : List γ} (first : List.Forall₂ left items ones)
    (second : List.Forall₂ right items others) : List.Forall₂ both ones others := by
  induction first generalizing others with
  | nil =>
      cases second
      exact .nil
  | cons head _ ih =>
      cases second with
      | cons otherHead tail => exact .cons (join _ _ _ head otherHead) (ih tail)

theorem AlikeReport.quietFile? {alone report : StepReport} (alike : AlikeReport alone report) :
    report.quietFile? = alone.quietFile? := by
  rcases alike with same | ⟨path, _, same⟩
  · rw [same]
  · rw [same]
    rfl

theorem quietFiles_of_fair {base : FileTree} {files : List Path} {reports : List StepReport}
    (fair : List.Forall₂ (fun file report => Fair configuration image answer base file
      (.finished report)) files reports) :
    reports.filterMap StepReport.quietFile? =
      files.filterMap fun file => (solo configuration image answer base file).1.quietFile? := by
  induction fair with
  | nil => rfl
  | cons head _ ih => rw [List.filterMap_cons, List.filterMap_cons, ih, head.1.quietFile?]

/-- The changes that quiet files make alone, where warnings count as failures. -/
def QuietUnion (configuration : Configuration) (image : Path) (runner : Runner) (world : World)
    (steps : List StepReport) (tree : FileTree) : Prop :=
  Union world.tree
    ((steps.filterMap StepReport.quietFile?).map fun file =>
      (compileAlone (configuration.under .fail) image runner file world).2.tree) tree

theorem compile_hardened (imaged : configuration.compilerImage = some image)
    (several : 1 ≤ configuration.jobs) {world : World} (sound : world.tree.Sound)
    (steady : Steady runner answer) (undisturbed : Undisturbed configuration) (first : World)
    (same : first.tree = world.tree) :
    ∃ before after lenient strict,
      compile (configuration.under .surface) runner first = (.ok before, lenient) ∧
      compile (configuration.under .fail) runner first = (.ok after, strict) ∧
      List.Forall₂ (Hardens configuration.template) before after ∧
      QuietUnion configuration image runner world after strict.tree := by
  rw [← same] at sound
  have given : ∀ policy, (configuration.under policy).compilerImage = some image := fun _ => imaged
  obtain ⟨before, lenient, ran, fair, _⟩ :=
    compile_solo (given .surface) several sound steady undisturbed
  obtain ⟨after, strict, strictRan, strictFair, union⟩ :=
    compile_solo (given .fail) several sound steady undisturbed
  have hardens : List.Forall₂ (Hardens configuration.template) before after := by
    refine forall₂_join ?_ fair strictFair
    intro file step strictStep
    exact hardens_of_fair
  refine ⟨before, after, lenient, strict, ran, strictRan, hardens, ?_⟩
  unfold QuietUnion
  rw [quietFiles_of_fair strictFair]
  simp only [(compileAlone_solo _ _ steady _ _).2, ← same]
  exact union.filterMap fun file => solo_quiet configuration image answer first.tree file

theorem bootstrap_hardened {source : Path} (sourced : configuration.bootstrapSource = some source)
    (steady : Steady runner answer) (world : World) :
    ∃ report lenient strict,
      bootstrap (configuration.under .surface) runner world = (.ok report, lenient) ∧
      bootstrap (configuration.under .fail) runner world = (.ok report.hardened, strict) ∧
      strict.tree = world.tree := by
  have given : ∀ policy, (configuration.under policy).bootstrapSource = some source :=
    fun _ => sourced
  have kept := bootstrap_tree steady.tree (configuration.under .fail) world
  cases named : Template.outputFor configuration.template source with
  | error error => exact ⟨_, _, _, bootstrap_unnamed (given .surface) named runner world,
      bootstrap_unnamed (given .fail) named runner world, rfl⟩
  | ok target =>
      obtain ⟨lenient, ran, _⟩ := bootstrap_ran (given .surface) named runner world
      obtain ⟨strict, strictRan, _⟩ := bootstrap_ran (given .fail) named runner world
      rw [strictRan] at kept
      refine ⟨_, lenient, strict, ran, ?_, kept⟩
      rw [strictRan]
      exact congrArg (fun report => (Except.ok report, strict))
        (StepReport.answered_hardened { bootstrapBlank source with target := some target } _)

theorem evaluate_hardened (imaged : configuration.compilerImage = some image)
    (steady : Steady runner answer) (first second : World) :
    ∃ report lenient strict,
      evaluate (configuration.under .surface) runner first = (.ok report, lenient) ∧
      evaluate (configuration.under .fail) runner second = (.ok report.hardened, strict) ∧
      report.operation = .evaluate ∧ strict.tree = second.tree := by
  have given : ∀ policy, (configuration.under policy).compilerImage = some image := fun _ => imaged
  have kept := evaluate_tree steady.tree (configuration.under .fail) second
  obtain ⟨lenient, ran, _⟩ := evaluate_ran (given .surface) runner first
  obtain ⟨strict, strictRan, _⟩ := evaluate_ran (given .fail) runner second
  rw [strictRan] at kept
  refine ⟨_, lenient, strict, ran, ?_, (answered_operation _ _ evaluateBlank).1, kept⟩
  rw [strictRan, steady.answer, steady.answer]
  exact congrArg (fun report => (Except.ok report, strict))
    (StepReport.answered_hardened evaluateBlank _)

theorem interact_hardened (imaged : configuration.compilerImage = some image)
    (steady : Steady runner answer) (world : World) :
    ∃ report lenient strict,
      interact (configuration.under .surface) runner world = (.ok report, lenient) ∧
      interact (configuration.under .fail) runner world = (.ok report.hardened, strict) ∧
      report.operation = .interact ∧ strict.tree = world.tree := by
  have given : ∀ policy, (configuration.under policy).compilerImage = some image := fun _ => imaged
  have kept := interact_tree steady.tree (configuration.under .fail) world
  obtain ⟨lenient, ran, _⟩ := interact_ran (given .surface) runner world
  obtain ⟨strict, strictRan, _⟩ := interact_ran (given .fail) runner world
  rw [strictRan] at kept
  refine ⟨_, lenient, strict, ran, ?_, (sessionReport_shape _).1, kept⟩
  rw [strictRan, sessionReport_hardened]
  rfl

/-! ### Whole runs -/

theorem hardens_self {template : String} (report : StepReport) :
    List.Forall₂ (Hardens template) [report] [report.hardened] :=
  .cons (Or.inl rfl) .nil

theorem QuietUnion.snoc {world : World} {steps : List StepReport} {tree : FileTree}
    {report : StepReport} (union : QuietUnion configuration image runner world steps tree)
    (other : ∀ file, report.operation ≠ .compile file) :
    QuietUnion configuration image runner world (steps ++ [report.hardened]) tree := by
  have none : report.hardened.quietFile? = none :=
    StepReport.quietFile?_eq_none (by rw [report.hardened_operation]; exact other)
  unfold QuietUnion at union ⊢
  rw [List.filterMap_append, List.filterMap_cons, none]
  simp only [List.filterMap_nil, List.append_nil]
  exact union

theorem quietUnion_nil (configuration : Configuration) (image : Path) (runner : Runner)
    (world : World) : QuietUnion configuration image runner world [] world.tree :=
  Union.nil world.tree

/-- The strict run beside the lenient one, step by step, and the files that it leaves. -/
structure HardenedRun (configuration : Configuration) (runner : Runner) (world : World)
    (lenient strict : Summary) (tree : FileTree) : Prop where
  mode : strict.mode = lenient.mode
  steps : List.Forall₂ (Hardens configuration.template) lenient.steps strict.steps
  imageless : configuration.compilerImage = none → tree = world.tree
  changes : ∀ image, configuration.compilerImage = some image →
    QuietUnion configuration image runner world strict.steps tree

theorem bootstrap_hardens {source : Path} (sourced : configuration.bootstrapSource = some source)
    (bare : configuration.compilerImage = none) (steady : Steady runner answer) (world : World) :
    ∃ before after lenient strict,
      whole (configuration.under .surface) runner world = (.ok before, lenient) ∧
      whole (configuration.under .fail) runner world = (.ok after, strict) ∧
      HardenedRun configuration runner world before after strict.tree := by
  obtain ⟨report, lenient, strict, ran, strictRan, tree⟩ :=
    bootstrap_hardened sourced steady (modeWorld .bootstrap world)
  have given : ∀ policy, (configuration.under policy).bootstrapSource = some source :=
    fun _ => sourced
  refine ⟨_, _, lenient, strict, whole_of_bootstrap (given .surface) bare ran,
    whole_of_bootstrap (given .fail) bare strictRan, rfl, hardens_self report, fun _ => tree, ?_⟩
  intro image imaged
  rw [bare] at imaged
  cases imaged

theorem compiled_hardens (unsourced : configuration.bootstrapSource = none)
    (imaged : configuration.compilerImage = some image) (several : 1 ≤ configuration.jobs)
    {world : World} (sound : world.tree.Sound) (steady : Steady runner answer)
    (undisturbed : ∀ evaluates, Mode.resolve configuration = .ok (.compile evaluates) →
      Undisturbed configuration) :
    ∃ before after lenient strict,
      whole (configuration.under .surface) runner world = (.ok before, lenient) ∧
      whole (configuration.under .fail) runner world = (.ok after, strict) ∧
      HardenedRun configuration runner world before after strict.tree := by
  have given : ∀ policy, (configuration.under policy).bootstrapSource = none := fun _ => unsourced
  have imageful : configuration.compilerImage ≠ none := by
    rw [imaged]
    exact Option.some_ne_none image
  have only : ∀ path, configuration.compilerImage = some path → path = image :=
    fun path found => Option.some.inj (found.symm.trans imaged)
  by_cases formless : configuration.forms = []
  · by_cases empty : configuration.inputs = []
    · obtain ⟨report, lenient, strict, ran, strictRan, operation, tree⟩ :=
        interact_hardened imaged steady (modeWorld .interactive world)
      refine ⟨_, _, lenient, strict, whole_of_session (given .surface) formless empty ran,
        whole_of_session (given .fail) formless empty strictRan, rfl, hardens_self report,
        fun _ => tree, ?_⟩
      intro path _
      rw [tree]
      exact (quietUnion_nil configuration path runner world).snoc (by rw [operation]; exact nofun)
    · obtain ⟨before, after, lenient, strict, ran, strictRan, hardens, union⟩ :=
        compile_hardened imaged several sound steady
          (undisturbed false (resolve_files unsourced formless empty))
          (modeWorld (.compile false) world) rfl
      refine ⟨_, _, lenient, strict, whole_of_files (given .surface) formless empty ran,
        whole_of_files (given .fail) formless empty strictRan, rfl, hardens,
        fun none => absurd none imageful, ?_⟩
      intro path found
      rw [only path found]
      exact union
  · obtain ⟨before, after, lenient, strict, ran, strictRan, hardens, union⟩ :=
      compile_hardened imaged several sound steady
        (undisturbed true (resolve_forms unsourced formless)) (modeWorld (.compile true) world) rfl
    obtain ⟨report, last, strictLast, evaluated, strictEvaluated, operation, tree⟩ :=
      evaluate_hardened imaged steady lenient strict
    refine ⟨_, _, last, strictLast, whole_of_forms (given .surface) formless ran evaluated,
      whole_of_forms (given .fail) formless strictRan strictEvaluated, rfl,
      List.rel_append hardens (hardens_self report), fun none => absurd none imageful, ?_⟩
    intro path found
    rw [only path found, tree]
    exact union.snoc (by rw [operation]; exact nofun)

variable (configuration runner) in
theorem whole_launched_under (several : 1 ≤ configuration.jobs) (world : World)
    (policy other : WarningPolicy) :
    (whole (configuration.under policy) runner world).2.launched =
      (whole (configuration.under other) runner world).2.launched := by
  refine List.map_injective_iff.mpr words_injective ?_
  cases sourced : configuration.bootstrapSource with
  | none =>
      have unsourced : ∀ choice, (configuration.under choice).bootstrapSource = none :=
        fun _ => sourced
      cases imaged : configuration.compilerImage with
      | none =>
          have refused := fun choice => whole_of_missing runner world (unsourced choice) imaged
          obtain ⟨mode, here⟩ := refused policy
          obtain ⟨otherMode, there⟩ := refused other
          rw [here, there, modeWorld_launched, modeWorld_launched]
      | some image =>
          have pictured : ∀ choice, (configuration.under choice).compilerImage = some image :=
            fun _ => imaged
          by_cases formless : configuration.forms = []
          · by_cases empty : configuration.inputs = []
            · have made := fun choice => session_launches runner (pictured choice) world
              obtain ⟨_, last, ran, here⟩ := made policy
              obtain ⟨_, otherLast, otherRan, there⟩ := made other
              rw [whole_of_session (unsourced policy) formless empty ran,
                whole_of_session (unsourced other) formless empty otherRan]
              exact here.launched.trans there.launched.symm
            · have none : ∀ choice, (configuration.under choice).forms = [] := fun _ => formless
              have made := fun choice =>
                files_launches runner (none choice) (pictured choice) several world
              obtain ⟨_, last, ran, here⟩ := made policy
              obtain ⟨_, otherLast, otherRan, there⟩ := made other
              rw [whole_of_files (unsourced policy) formless empty ran,
                whole_of_files (unsourced other) formless empty otherRan]
              exact here.launched.trans there.launched.symm
          · have someForms : ∀ choice, (configuration.under choice).forms ≠ [] :=
              fun _ => formless
            have made := fun choice =>
              forms_launches runner (someForms choice) (pictured choice) several world
            obtain ⟨_, _, ran, _, last, evaluated, here⟩ := made policy
            obtain ⟨_, _, otherRan, _, otherLast, otherEvaluated, there⟩ := made other
            rw [whole_of_forms (unsourced policy) formless ran evaluated,
              whole_of_forms (unsourced other) formless otherRan otherEvaluated]
            exact here.launched.trans there.launched.symm
  | some source =>
      have given : ∀ choice, (configuration.under choice).bootstrapSource = some source :=
        fun _ => sourced
      cases imaged : configuration.compilerImage with
      | none =>
          have made := fun choice => bootstrap_launches runner (given choice) world
          obtain ⟨_, last, ran, here⟩ := made policy
          obtain ⟨_, otherLast, otherRan, there⟩ := made other
          rw [whole_of_bootstrap (given policy) imaged ran,
            whole_of_bootstrap (given other) imaged otherRan]
          exact here.launched.trans there.launched.symm
      | some image =>
          rw [whole_conflict (given policy) imaged, whole_conflict (given other) imaged]

theorem Hardens.isFailure {template : String} {lenient strict : StepReport}
    (hardens : Hardens template lenient strict) (failed : lenient.outcome.isFailure = true) :
    strict.outcome.isFailure = true := by
  have still := StepReport.isFailure_hardened failed
  rcases hardens with same | ⟨_, alike | alike⟩
  · rw [same]
    exact still
  · rcases alike with same | ⟨path, _, same⟩
    · rw [same]
      exact still
    · rw [same]
      rfl
  · rcases alike with same | ⟨path, taken, _⟩
    · rw [← same]
      exact still
    · rw [taken]
      rfl

theorem failures_of_hardens {template : String} {lenient strict : List StepReport}
    (hardens : List.Forall₂ (Hardens template) lenient strict) :
    lenient.countP (fun step => step.outcome.isFailure) ≤
      strict.countP (fun step => step.outcome.isFailure) := by
  induction hardens with
  | nil => exact Nat.le_refl _
  | @cons step other rest others head _ ih =>
      rw [List.countP_cons, List.countP_cons]
      by_cases failed : step.outcome.isFailure = true
      · rw [if_pos failed, if_pos (head.isFailure failed)]
        omega
      · rw [if_neg failed]
        omega

theorem Concluded.warnings {step : StepReport} (concluded : Concluded configuration step)
    (outcome : step.outcome = .warnings) :
    ∃ completion, step.completion = some completion ∧ completion.stderr ≠ [] := by
  cases concluded with
  | unnamed | unwritten => cases outcome
  | @answered report target answer =>
      cases answer with
      | error error => cases outcome
      | ok completion =>
          refine ⟨completion, rfl, ?_⟩
          intro silent
          change report.operation.classify configuration.warnings completion = .warnings at outcome
          rcases classify_cases report.operation configuration.warnings completion with
            ⟨_, other⟩ | ⟨_, _, other⟩ | ⟨_, noisy, _⟩ | ⟨_, noisy, _⟩
          · rw [other] at outcome
            cases outcome
          · rw [other] at outcome
            cases outcome
          · exact noisy silent
          · exact noisy silent
  | session answer =>
      unfold sessionReport at outcome
      cases answer with
      | error error => cases outcome
      | ok completion =>
          simp only at outcome
          split at outcome <;> cases outcome

theorem exitCode_of_hardens {lenient strict : Summary} {other : Configuration}
    (before : ∀ step ∈ lenient.steps, Concluded configuration step)
    (after : ∀ step ∈ strict.steps, Concluded other step)
    (fewer : lenient.failures ≤ strict.failures) : lenient.exitCode ≤ strict.exitCode := by
  rw [Summary.exitCode_of_concluded before, Summary.exitCode_of_concluded after]
  by_cases none : lenient.failures = 0
  · rw [if_pos none]
    exact Nat.zero_le _
  · have someStrict : strict.failures ≠ 0 := by omega
    simp only [if_neg none, if_neg someStrict, Nat.le_refl]

/-- Under both policies a run has a summary, or none for the same reason. -/
theorem whole_hardens (several : 1 ≤ configuration.jobs) {world : World}
    (sound : world.tree.Sound) (steady : Steady runner answer)
    (undisturbed : ∀ evaluates, Mode.resolve configuration = .ok (.compile evaluates) →
      Undisturbed configuration) :
    (∃ error lenient strict,
        whole (configuration.under .surface) runner world = (.error error, lenient) ∧
        whole (configuration.under .fail) runner world = (.error error, strict) ∧
        strict.tree = world.tree) ∨
      ∃ before after lenient strict,
        whole (configuration.under .surface) runner world = (.ok before, lenient) ∧
        whole (configuration.under .fail) runner world = (.ok after, strict) ∧
        HardenedRun configuration runner world before after strict.tree := by
  cases sourced : configuration.bootstrapSource with
  | none =>
      cases imaged : configuration.compilerImage with
      | none =>
          have given : ∀ policy, (configuration.under policy).bootstrapSource = none :=
            fun _ => sourced
          obtain ⟨mode, refused⟩ := whole_of_missing runner world (given .surface) imaged
          obtain ⟨strictMode, strictRefused⟩ := whole_of_missing runner world (given .fail) imaged
          exact Or.inl ⟨_, _, _, refused, strictRefused, rfl⟩
      | some image =>
          exact Or.inr (compiled_hardens sourced imaged several sound steady undisturbed)
  | some source =>
      cases imaged : configuration.compilerImage with
      | none => exact Or.inr (bootstrap_hardens sourced imaged steady world)
      | some image =>
          have given : ∀ policy, (configuration.under policy).bootstrapSource = some source :=
            fun _ => sourced
          exact Or.inl ⟨_, _, _, whole_conflict (given .surface) imaged,
            whole_conflict (given .fail) imaged, rfl⟩

/-- A run that lets warnings pass, and the same run where they count as failures. They launch the
same commands. A step that warned fails over its diagnostics, and so does one with diagnostics whose
module could not be written; every other step is the same in both, except that a file in the way of
a directory that targets share may be met with another error in a template that climbs. The strict
run changes the tree by what the quiet processes leave when their files are compiled alone. -/
theorem whole_hardened (configuration : Configuration) (runner : Runner)
    (answer : Command → Except RunError Completion) (world : World)
    (several : 1 ≤ configuration.jobs) (sound : world.tree.Sound) (steady : Steady runner answer)
    (undisturbed : ∀ evaluates, Mode.resolve configuration = .ok (.compile evaluates) →
      Undisturbed configuration) :
    (whole (configuration.under .fail) runner world).2.launched =
        (whole (configuration.under .surface) runner world).2.launched ∧
      ((∃ error,
          (whole (configuration.under .surface) runner world).1 = .error error ∧
          (whole (configuration.under .fail) runner world).1 = .error error ∧
          (whole (configuration.under .fail) runner world).2.tree = world.tree) ∨
        ∃ before after,
          (whole (configuration.under .surface) runner world).1 = .ok before ∧
          (whole (configuration.under .fail) runner world).1 = .ok after ∧
          HardenedRun configuration runner world before after
            (whole (configuration.under .fail) runner world).2.tree ∧
          (∀ step ∈ before.steps, step.outcome = .warnings →
            ∃ completion, step.completion = some completion ∧ completion.stderr ≠ []) ∧
          before.exitCode ≤ after.exitCode) := by
  refine ⟨whole_launched_under configuration runner several world .fail .surface, ?_⟩
  rcases whole_hardens several sound steady undisturbed with
    ⟨error, lenient, strict, refused, strictRefused, tree⟩ |
    ⟨before, after, lenient, strict, ran, strictRan, hardened⟩
  · rw [refused, strictRefused]
    exact Or.inl ⟨error, rfl, rfl, tree⟩
  · have concluded := whole_concluded (congrArg Prod.fst ran)
    have strictConcluded := whole_concluded (congrArg Prod.fst strictRan)
    have fewer : before.failures ≤ after.failures := failures_of_hardens hardened.steps
    rw [ran, strictRan]
    refine Or.inr ⟨before, after, rfl, rfl, hardened, ?_, ?_⟩
    · intro step member
      exact (concluded step member).warnings
    · exact exitCode_of_hardens concluded strictConcluded fewer

/-- The process for the first file complains, and the one for the second does not. -/
def grumble (command : Command) : Except RunError Completion :=
  .ok
    { stdout := Bytes.ofText "M"
      stderr := if command.words.getLast? = some (Bytes.ofText "one.ss") then Bytes.ofText "w" else [] }

def grumbling : Runner := fun call tree =>
  { duration := 0, answer := grumble call.command, tree := tree }

theorem grumbling_steady : Steady grumbling grumble :=
  ⟨fun _ _ => rfl, fun _ _ => rfl⟩

def outcomes (policy : WarningPolicy) : Except ConfigError (List Outcome) :=
  (whole (climbing.under policy) grumbling { tree := obstructed }).1.map fun summary =>
    summary.steps.map StepReport.outcome

/-- The first file makes the directory that the template climbs out of, unless its warnings count as
failures; so the second file, which has no warnings, fails differently. -/
theorem climbing_fails_otherwise :
    1 ≤ climbing.jobs ∧ obstructed.Sound ∧ Steady grumbling grumble ∧ Undisturbed climbing ∧
      outcomes .surface =
        .ok [.failed (.write (.ofText "a/../f/x/one.wasm") .alreadyThere),
          .failed (.write (.ofText "a/../f/x/two.wasm") .notDirectory)] ∧
      outcomes .fail =
        .ok [.failed (.failed (.compile (.ofText "one.ss")) (.warned "w")),
          .failed (.write (.ofText "a/../f/x/two.wasm") .alreadyThere)] ∧
      grumble (compileCommand climbing (.ofText "/img/c.wasm") (.ofText "two.ss")) =
        .ok { stdout := Bytes.ofText "M" } :=
  ⟨by decide, obstructed_sound, grumbling_steady, climbing_undisturbed, by decide +kernel,
    by decide +kernel, by decide +kernel⟩

theorem climbing_hardened :
    1 ≤ climbing.jobs ∧ obstructed.Sound ∧ Steady grumbling grumble ∧ Undisturbed climbing ∧
      (whole (climbing.under .fail) grumbling { tree := obstructed }).2.launched =
        (whole (climbing.under .surface) grumbling { tree := obstructed }).2.launched ∧
      ∃ before after,
        (whole (climbing.under .surface) grumbling { tree := obstructed }).1 = .ok before ∧
        (whole (climbing.under .fail) grumbling { tree := obstructed }).1 = .ok after ∧
        HardenedRun climbing grumbling { tree := obstructed } before after
          (whole (climbing.under .fail) grumbling { tree := obstructed }).2.tree ∧
        before.exitCode ≤ after.exitCode := by
  have several : 1 ≤ climbing.jobs := by decide
  obtain ⟨launched, ⟨error, refused, _⟩ | ⟨before, after, ran, strictRan, hardened, _, exits⟩⟩ :=
    whole_hardened climbing grumbling grumble { tree := obstructed } several obstructed_sound
      grumbling_steady fun _ _ => climbing_undisturbed
  · cases refused
  · exact ⟨several, obstructed_sound, grumbling_steady, climbing_undisturbed, launched, before,
      after, ran, strictRan, hardened, exits⟩

end Run

end CompilerDriver
