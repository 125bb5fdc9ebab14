import CompilerDriver.Proofs.FileTree.Frame
import CompilerDriver.Proofs.Run.Accounting
import CompilerDriver.Proofs.Run.Independence

/-!
What the steps of a run change in the file tree. A runner may change it as it likes while its call
is under way; the step itself changes nothing but by the module that it writes. So a batch whose
runner leaves the tree alone ends with the modules of its steps, and with directories on the way to
them.
-/

namespace CompilerDriver

namespace Run

open FileTree

variable {configuration : Configuration} {image file : Path} {target : Target} {runner : Runner}

/-- What a compile step makes of the tree that it finds when its call has ended. -/
structure Framed (found last : FileTree) (report : StepReport) : Prop where
  failed : ∀ error, report.outcome = .failed error → (∀ path cause, error ≠ .write path cause) →
    last = found
  printed : report.target = some .standardOutput → last = found
  delivered : ∀ path, report.target = some (.file path) → report.outcome.isFailure = false →
    ∃ completion, report.completion = some completion ∧
      Delivers path completion.stdout found last
  unwritten : ∀ path cause, report.outcome = .failed (.write path cause) →
    report.target = some (.file path) ∧ Extends (found.OnWay path) found last

theorem answered_ne_write (policy : WarningPolicy) (answer : Except RunError Completion)
    (report : StepReport) (path : Path) (cause : OsError) :
    (report.answered policy answer).outcome ≠ .failed (.write path cause) := by
  intro same
  cases answer with
  | error error => cases error <;> cases same
  | ok completion =>
      change report.operation.classify policy completion = _ at same
      rcases classify_cases report.operation policy completion with
        ⟨_, outcome⟩ | ⟨_, _, outcome⟩ | ⟨_, _, _, outcome⟩ | ⟨_, _, _, outcome⟩ <;>
        rw [outcome] at same <;>
        cases same

theorem product?_of_kept {path : Path} {answer : Except RunError Completion}
    (kept : ((targeted file (.file path)).answered configuration.warnings answer).outcome.isFailure =
      false) :
    ∃ completion : Completion, product? (.file path) answer
      ((targeted file (.file path)).answered configuration.warnings answer).outcome =
        some (path, completion.stdout) := by
  cases answer with
  | error error => cases kept
  | ok completion =>
      refine ⟨completion, ?_⟩
      unfold product?
      simp only [kept, Bool.false_eq_true, if_false]

variable {found last : FileTree} {report : StepReport}

theorem framed_unchanged (tree : FileTree)
    (other : ∀ path cause, report.outcome ≠ .failed (.write path cause))
    (failing : ∀ path, report.target = some (.file path) → report.outcome.isFailure = true) :
    Framed tree tree report := by
  refine ⟨fun _ _ _ => rfl, fun _ => rfl, ?_, ?_⟩
  · intro path goal succeeded
    rw [failing path goal] at succeeded
    cases succeeded
  · intro path cause unwritten
    exact absurd unwritten (other path cause)

theorem framed_unwritten {path : Path} {cause : OsError}
    (unwritten : report.outcome = .failed (.write path cause))
    (aimed : report.target = some (.file path)) (extended : Extends (found.OnWay path) found last) :
    Framed found last report := by
  refine ⟨?_, ?_, ?_, ?_⟩
  · intro error failed other
    rw [unwritten] at failed
    cases failed
    exact absurd rfl (other path cause)
  · intro printed
    rw [aimed] at printed
    cases printed
  · intro _ _ succeeded
    rw [unwritten] at succeeded
    cases succeeded
  · intro other reason same
    rw [unwritten] at same
    cases same
    exact ⟨aimed, extended⟩

theorem framed_delivered {path : Path} {completion : Completion}
    (succeeded : report.outcome.isFailure = false) (aimed : report.target = some (.file path))
    (completed : report.completion = some completion)
    (delivered : Delivers path completion.stdout found last) : Framed found last report := by
  refine ⟨?_, ?_, ?_, ?_⟩
  · intro error failed _
    rw [failed] at succeeded
    cases succeeded
  · intro printed
    rw [aimed] at printed
    cases printed
  · intro other goal _
    rw [aimed] at goal
    cases goal
    exact ⟨completion, completed, delivered⟩
  · intro other cause unwritten
    rw [unwritten] at succeeded
    cases succeeded

theorem close_framed (configuration : Configuration) (file : Path) (target : Target)
    (answer : Except RunError Completion) (tree : FileTree) :
    Framed tree (close configuration file target answer tree).tree
      (close configuration file target answer tree).report := by
  have aimed := (close_operation configuration file target answer tree).2.2
  cases produced : product? target answer
      ((targeted file target).answered configuration.warnings answer).outcome with
  | none =>
      rw [close_of_none produced] at aimed ⊢
      refine framed_unchanged tree (answered_ne_write _ _ _) ?_
      intro path goal
      rw [aimed, Option.some.injEq] at goal
      subst goal
      apply Classical.byContradiction
      intro kept
      obtain ⟨completion, wrote⟩ := product?_of_kept (Bool.eq_false_iff.mpr kept)
      rw [produced] at wrote
      cases wrote
  | some product =>
      obtain ⟨path, bytes⟩ := product
      obtain ⟨rfl, kept, completion, rfl, rfl⟩ := product?_eq_some produced
      obtain ⟨treeEq, reportEq⟩ := close_of_some produced tree
      obtain ⟨extended, delivered⟩ := writeProduct_frame tree path completion.stdout
      rw [treeEq]
      cases wrote : (tree.writeProduct path completion.stdout).1 with
      | some cause =>
          simp only [wrote] at reportEq
          exact framed_unwritten (by rw [reportEq]; rfl) aimed (extended cause wrote)
      | none =>
          simp only [wrote] at reportEq
          exact framed_delivered (by rw [reportEq]; exact kept) aimed (by rw [reportEq]; rfl)
            (delivered wrote)

theorem refusal_framed (tree : FileTree) (file : Path) (error : TemplateError) :
    Framed tree tree (refusal file error) :=
  framed_unchanged tree (fun _ _ same => by cases same) fun _ _ => rfl

theorem compileAlone_finds (configuration : Configuration) (image : Path) (runner : Runner)
    (file : Path) (world : World) :
    ∃ found, Finds runner world (compileAlone configuration image runner file world).2 found ∧
      Framed found (compileAlone configuration image runner file world).2.tree
        (compileAlone configuration image runner file world).1 := by
  unfold compileAlone
  cases named : Template.outputFor configuration.template file with
  | error error =>
      rw [beginCompile_of_unnamed named]
      exact ⟨world.tree, Or.inl ⟨rfl, rfl⟩, refusal_framed world.tree file error⟩
  | ok target =>
      rw [beginCompile_of_named named]
      simp only [endCompile_eq]
      refine ⟨(openingReply configuration image runner file world).tree, Or.inr ?_,
        close_framed configuration file target _ _⟩
      refine ⟨openingCall configuration image file world, ⟨_, List.append_assoc _ _ _, ?_, ?_⟩, rfl⟩
      · rw [Event.starts_append, starts_openingEvents, starts_closingEvents, List.append_nil]
      · rw [Event.ends_append, ends_openingEvents, ends_closingEvents, List.nil_append]
        have landed : max world.time (world.time +
            (openingReply configuration image runner file world).duration) =
              world.time + (openingReply configuration image runner file world).duration :=
          Nat.max_eq_right (Nat.le_add_right _ _)
        exact congrArg (fun time => [(time, world.calls)]) landed

/-- Files change by what a step writes and by nothing else. A compile step that has failed for any
reason but the writing itself, or that prints its module, leaves the tree as its call left it. One
that has written its module is read back from its target, and every other place is as it was, but
for new directories on the way to the target; those are all that a step leaves that could not write.
The other steps change nothing. -/
theorem steps_framed (configuration : Configuration) (image : Path) (runner : Runner) :
    (∀ file world, ∃ found,
      Finds runner world (compileAlone configuration image runner file world).2 found ∧
        Framed found (compileAlone configuration image runner file world).2.tree
          (compileAlone configuration image runner file world).1) ∧
      (∀ step world, Framed world.tree (endCompile configuration step world).2.tree
        (endCompile configuration step world).1) ∧
      ∀ world,
        Finds runner world (bootstrap configuration runner world).2
            (bootstrap configuration runner world).2.tree ∧
          Finds runner world (evaluate configuration runner world).2
            (evaluate configuration runner world).2.tree ∧
          Finds runner world (interact configuration runner world).2
            (interact configuration runner world).2.tree := by
  refine ⟨compileAlone_finds configuration image runner, ?_, ?_⟩
  · intro step world
    rw [endCompile_eq]
    exact close_framed configuration step.file step.target step.flight.answer world.tree
  · intro world
    exact ⟨bootstrap_finds configuration runner world, evaluate_finds configuration runner world,
      interact_finds configuration runner world⟩

/-- A module goes into a directory that has to be made. -/
def nested : Configuration :=
  { compilerImage := some (.ofText "/img/c.wasm")
    template := "out/\x7b\x7d.wasm"
    toolchain := .standard (.ofText "/") }

theorem nestedModule_delivered :
    ∃ found,
      Finds printing { tree := {} }
          (compileAlone nested (.ofText "/img/c.wasm") printing (.ofText "one.ss") { tree := {} }).2
          found ∧
        Delivers (.ofText "out/one.wasm") (Bytes.ofText "M") found
          (compileAlone nested (.ofText "/img/c.wasm") printing (.ofText "one.ss")
            { tree := {} }).2.tree := by
  obtain ⟨alone, _⟩ := steps_framed nested (.ofText "/img/c.wasm") printing
  obtain ⟨found, finds, framed⟩ := alone (.ofText "one.ss") { tree := {} }
  have answered : (compileAlone nested (.ofText "/img/c.wasm") printing (.ofText "one.ss")
      { tree := {} }).1.completion = some { stdout := Bytes.ofText "M" } := by decide +kernel
  obtain ⟨completion, completed, delivered⟩ :=
    framed.delivered (.ofText "out/one.wasm") (by decide +kernel) (by decide +kernel)
  rw [answered] at completed
  cases completed
  exact ⟨found, finds, delivered⟩

/-! ### Whole batches -/

/-- A step accounts for what stands at a place: a directory on the way to its target that was not
there, or the module that it has written there. -/
def Explains (first tree : FileTree) (report : StepReport) (place : Place) : Prop :=
  ∃ path, report.target = some (.file path) ∧
    (first.get? place = none ∧ tree.get? place = some .directory ∧ first.OnWay path place ∨
      report.outcome.isFailure = false ∧ ∃ completion executable,
        report.completion = some completion ∧ tree.locate path = .ok place ∧
          first.get? place ≠ some .directory ∧
          tree.get? place = some (.file completion.stdout executable))

/-- Every place of a tree is as it was at first, or some step accounts for it. -/
structure Explained (first tree : FileTree) (slots : List Slot) : Prop where
  start : tree.start = first.start
  places : ∀ place, tree.get? place = first.get? place ∨
    ∃ report, .finished report ∈ slots ∧ Explains first tree report place

variable {first : FileTree} {slots others : List Slot}

theorem Explained.subset (explained : Explained first last slots)
    (included : ∀ report, .finished report ∈ slots → .finished report ∈ others) :
    Explained first last others := by
  refine ⟨explained.start, ?_⟩
  intro place
  rcases explained.places place with same | ⟨report, member, explains⟩
  · exact Or.inl same
  · exact Or.inr ⟨report, included report member, explains⟩

theorem Explains.kept {place : Place} (explains : Explains first found report place)
    (starts : last.start = found.start)
    (directories : ∀ other, found.get? other = some .directory → last.get? other = some .directory)
    (same : last.get? place = found.get? place) : Explains first last report place := by
  obtain ⟨path, goal, ⟨missing, made, way⟩ | ⟨kept, completion, executable, answered, located,
    free, here⟩⟩ := explains
  · exact ⟨path, goal, Or.inl ⟨missing, same.trans made, way⟩⟩
  · exact ⟨path, goal, Or.inr ⟨kept, completion, executable, answered,
      locate_kept starts directories located, free, same.trans here⟩⟩

theorem Explains.ne_missing {place : Place} (explains : Explains first found report place) :
    found.get? place ≠ none := by
  obtain ⟨path, _, ⟨_, made, _⟩ | ⟨_, completion, executable, _, _, _, here⟩⟩ := explains
  · rw [made]
    exact nofun
  · rw [here]
    exact nofun

theorem Explained.missing {place : Place} (explained : Explained first found slots)
    (missing : found.get? place = none) : first.get? place = none := by
  rcases explained.places place with same | ⟨report, _, explains⟩
  · rw [← same, missing]
  · exact absurd missing explains.ne_missing

theorem Explained.not_directory {place : Place} (explained : Explained first found slots)
    (free : found.get? place ≠ some .directory) : first.get? place ≠ some .directory := by
  rcases explained.places place with same | ⟨report, _, path, _, ⟨_, made, _⟩ | ⟨_, _, _, _, _,
    wasFree, _⟩⟩
  · rw [← same]
    exact free
  · exact absurd made free
  · exact wasFree

theorem onWay_of_start {path : Path} {place : Place} (starts : found.start = first.start)
    (way : found.OnWay path place) : first.OnWay path place := by
  obtain ⟨parent, isParent, front, beginning, reached⟩ := way
  exact ⟨parent, isParent, front, beginning, by rw [reached, origin_congr starts]⟩

/-- Places that a step has not touched are accounted for as before, and the step accounts for the
others. -/
theorem Explained.step (explained : Explained first found slots)
    (starts : last.start = found.start)
    (directories : ∀ other, found.get? other = some .directory → last.get? other = some .directory)
    (changes : ∀ place, last.get? place = found.get? place ∨ Explains found last report place)
    (included : ∀ other, .finished other ∈ slots → .finished other ∈ others)
    (member : .finished report ∈ others) : Explained first last others := by
  refine ⟨starts.trans explained.start, ?_⟩
  intro place
  rcases changes place with same | ⟨path, goal, change⟩
  · rcases explained.places place with unchanged | ⟨other, earlier, explains⟩
    · exact Or.inl (same.trans unchanged)
    · exact Or.inr ⟨other, included other earlier, explains.kept starts directories same⟩
  · refine Or.inr ⟨report, member, path, goal, ?_⟩
    rcases change with ⟨missing, made, way⟩ | ⟨kept, completion, executable, answered, located,
      free, here⟩
    · exact Or.inl ⟨explained.missing missing, made, onWay_of_start explained.start way⟩
    · exact Or.inr ⟨kept, completion, executable, answered, located,
        explained.not_directory free, here⟩

theorem Framed.explained {target : Target} (framed : Framed found last report)
    (aimed : report.target = some target) (explained : Explained first found slots)
    (included : ∀ other, .finished other ∈ slots → .finished other ∈ others)
    (member : .finished report ∈ others) : Explained first last others := by
  have unchanged (same : last = found) : Explained first last others := by
    rw [same]
    exact explained.subset included
  cases failing : report.outcome.isFailure with
  | true =>
      cases outcome : report.outcome with
      | success =>
          rw [outcome] at failing
          cases failing
      | warnings =>
          rw [outcome] at failing
          cases failing
      | failed error =>
          by_cases unwritten : ∃ path cause, error = .write path cause
          · obtain ⟨path, cause, rfl⟩ := unwritten
            obtain ⟨goal, extended⟩ := framed.unwritten path cause outcome
            refine explained.step extended.start (fun _ here => (extended.kept _).directory here) ?_
              included member
            intro place
            exact (extended.places place).imp_right fun made => ⟨path, goal, Or.inl made⟩
          · refine unchanged (framed.failed error outcome ?_)
            intro path cause same
            exact unwritten ⟨path, cause, same⟩
  | false =>
      cases target with
      | standardOutput => exact unchanged (framed.printed aimed)
      | file path =>
          obtain ⟨completion, answered, delivered⟩ := framed.delivered path aimed failing
          obtain ⟨goal, located, free, here, elsewhere⟩ := delivered.places
          refine explained.step delivered.start (fun _ directory => delivered.directory directory) ?_
            included member
          intro place
          by_cases same : place = goal
          · subst same
            exact Or.inr ⟨path, aimed, Or.inr ⟨failing, completion, _, answered, located, free, here⟩⟩
          · exact (elsewhere place same).imp_right fun made => ⟨path, aimed, Or.inl made⟩

theorem Reached.explained {first : World} {batch : Batch} {stays : List Stay}
    (keeps : ∀ call tree, (runner call tree).tree = tree)
    (reached : Reached configuration image runner first batch stays) :
    Explained first.tree batch.world.tree batch.slots := by
  induction reached with
  | start => exact ⟨rfl, fun _ => Or.inl rfl⟩
  | leave before ih => simpa [Batch.slots] using ih
  | refuse before unsettled room unnamed ih =>
      refine ih.subset ?_
      intro report member
      simp only [Batch.slots, List.mem_append] at member ⊢
      exact member.imp_right Or.inl
  | @launch world done window file waiting stays target before unsettled room named ih =>
      have kept : (afterOpening configuration image runner file world).tree = world.tree :=
        keeps _ _
      rw [kept]
      refine ih.subset ?_
      intro report member
      simp only [Batch.slots, List.mem_append] at member ⊢
      exact member.imp_right Or.inl
  | @land world done front step back waiting stays before due ih =>
      have framed := close_framed configuration step.file step.target step.flight.answer world.tree
      have aimed := (close_operation configuration step.file step.target step.flight.answer
        world.tree).2.2
      rw [endCompile_eq]
      refine framed.explained aimed ih ?_ ?_
      · intro report member
        simp only [Batch.slots, List.mem_append, List.mem_cons] at member ⊢
        rcases member with earlier | beforeIt | same | behind
        · exact Or.inl earlier
        · exact Or.inr (Or.inl beforeIt)
        · cases same
        · exact Or.inr (Or.inr (Or.inr behind))
      · simp only [Batch.slots, List.mem_append, List.mem_cons]
        exact Or.inr (Or.inr (Or.inl rfl))

/-- When its runner writes no file itself, a batch leaves every place as it was, except for modules
that its steps have written and directories on the way to their targets. -/
theorem compile_explained (imaged : configuration.compilerImage = some image)
    (keeps : ∀ call tree, (runner call tree).tree = tree) (world : World) :
    ∃ reports last, compile configuration runner world = (.ok reports, last) ∧
      ∀ place, last.tree.get? place = world.tree.get? place ∨
        ∃ report ∈ reports, Explains world.tree last.tree report place := by
  obtain ⟨last, reports, waiting, stays, ran, reached, _⟩ := compile_reached runner imaged world
  refine ⟨reports, last, ran, ?_⟩
  intro place
  have begun : (batchWorld configuration world).tree = world.tree := rfl
  have explained := reached.explained keeps
  simp only [Batch.slots, List.append_nil, begun] at explained
  refine (explained.places place).imp_right ?_
  rintro ⟨report, member, explains⟩
  obtain ⟨other, inside, same⟩ := List.mem_map.mp member
  cases same
  exact ⟨report, inside, explains⟩

end Run

end CompilerDriver
