import Mathlib.Data.List.Induction
import CompilerDriver.Proofs.Run.Schedule

/-!
What more jobs do to a schedule. Places are freed in input order, so a file waits for a beginning of
the files before it, and with more jobs for a shorter one. Hence no file starts or ends later than
with fewer jobs, however long the calls take, and neither does the batch.
-/

namespace CompilerDriver.Run

/-- A runner that takes as long over a call whenever it is asked, whatever it finds in the tree. -/
def Paced (runner : Runner) (delay : Call → Nat) : Prop :=
  ∀ call tree, (runner call tree).duration = delay call

/-- Two turns of a file, the first of which starts and ends no later. -/
structure Turn.NoLater (early late : Turn) : Prop where
  call : early.call? = late.call?
  start : early.start ≤ late.start
  finish : early.finish ≤ late.finish

theorem Turn.Lasts.finish_eq {runner : Runner} {delay : Call → Nat} {turn : Turn}
    (lasts : turn.Lasts runner) (paced : Paced runner delay) :
    turn.finish = turn.start + (turn.call?.map delay).getD 0 := by
  unfold Turn.Lasts at lasts
  cases called : turn.call? with
  | none =>
      rw [called] at lasts
      exact lasts
  | some call =>
      rw [called] at lasts
      obtain ⟨tree, ended⟩ := lasts
      rw [ended, paced]
      rfl

theorem Turn.noLater_of_start {runner : Runner} {delay : Call → Nat} (paced : Paced runner delay)
    {early late : Turn} (call : early.call? = late.call?) (earlyLasts : early.Lasts runner)
    (lateLasts : late.Lasts runner) (start : early.start ≤ late.start) : early.NoLater late := by
  refine ⟨call, start, ?_⟩
  rw [earlyLasts.finish_eq paced, lateLasts.finish_eq paced, call]
  exact Nat.add_le_add_right start _

theorem latest_mono (origin : Nat) {early late : List Turn}
    (sooner : List.Forall₂ Turn.NoLater early late) : latest origin early ≤ latest origin late := by
  induction sooner with
  | nil => exact Nat.le_refl origin
  | cons first _ ih =>
      rw [latest_cons, latest_cons]
      exact Nat.max_le.mpr ⟨Nat.le_trans first.finish (Nat.le_max_left _ _),
        Nat.le_trans ih (Nat.le_max_right _ _)⟩

variable {jobs fewer more origin : Nat} {turns early late : List Turn} {turn : Turn}

theorem Follows.front (several : 1 ≤ jobs) (follows : Follows jobs origin (turns ++ [turn])) :
    Follows jobs origin turns := by
  intro index other found
  have inside : index < turns.length := (List.getElem?_eq_some_iff.mp found).1
  have onTime := follows index other (by rw [List.getElem?_append_left inside, found])
  rwa [List.take_append_of_le_length (by omega)] at onTime

theorem Follows.last (several : 1 ≤ jobs) (follows : Follows jobs origin (turns ++ [turn])) :
    turn.start = latest origin (turns.take (turns.length + 1 - jobs)) := by
  have onTime := follows turns.length turn List.getElem?_concat_length
  rwa [List.take_append_of_le_length (by omega)] at onTime

/-- The same calls, taken up with more jobs, have their turns no later. -/
theorem Follows.noLater {runner : Runner} {delay : Call → Nat} (paced : Paced runner delay)
    (several : 1 ≤ fewer) (le : fewer ≤ more)
    (calls : early.map Turn.call? = late.map Turn.call?)
    (earlyLasts : ∀ turn ∈ early, turn.Lasts runner)
    (lateLasts : ∀ turn ∈ late, turn.Lasts runner)
    (earlyFollows : Follows more origin early) (lateFollows : Follows fewer origin late) :
    List.Forall₂ Turn.NoLater early late := by
  -- On the files in input order: a file waits for files that entered before it, and for these the
  -- two schedules are already compared.
  induction late using List.reverseRecOn generalizing early with
  | nil =>
      rw [List.map_nil, List.map_eq_nil_iff] at calls
      rw [calls]
      exact .nil
  | append_singleton late last ih =>
      rcases List.eq_nil_or_concat early with rfl | ⟨front, final, rfl⟩
      · simp at calls
      · rw [List.concat_eq_append] at *
        rw [List.map_append, List.map_append] at calls
        obtain ⟨before, same⟩ := List.append_inj' calls rfl
        have earlier := ih before
          (fun turn member => earlyLasts turn (List.mem_append_left _ member))
          (fun turn member => lateLasts turn (List.mem_append_left _ member))
          (earlyFollows.front (by omega)) (lateFollows.front several)
        have start : final.start ≤ last.start := by
          rw [earlyFollows.last (by omega), lateFollows.last several]
          calc
            latest origin (front.take (front.length + 1 - more))
                ≤ latest origin (front.take (front.length + 1 - fewer)) :=
              latest_le_of_beginning (List.take_prefix_take_left (by omega))
            _ ≤ latest origin (late.take (late.length + 1 - fewer)) := by
              rw [earlier.length_eq]
              exact latest_mono origin (List.forall₂_take _ earlier)
        have behind := Turn.noLater_of_start paced (List.cons.inj same).1 (earlyLasts _ (by simp))
          (lateLasts _ (by simp)) start
        exact List.rel_append earlier (.cons behind .nil)

variable {configuration : Configuration} {image : Path} {runner : Runner} {world : World}

theorem plannedCalls_jobs (jobs index : Nat) (files : List Path) :
    plannedCalls { configuration with jobs := jobs } image index files =
      plannedCalls configuration image index files := by
  induction files generalizing index with
  | nil => rfl
  | cons file rest ih =>
      cases named : Template.outputFor configuration.template file with
      | ok target =>
          have varied : Template.outputFor { configuration with jobs := jobs }.template file =
              .ok target := named
          rw [plannedCalls_of_named named, plannedCalls_of_named varied, ih]
          rfl
      | error error =>
          have varied : Template.outputFor { configuration with jobs := jobs }.template file =
              .error error := named
          rw [plannedCalls_of_unnamed named, plannedCalls_of_unnamed varied, ih]

theorem Scheduled.noLater {delay : Call → Nat} {calls : Nat} {earlyEvents lateEvents : List Event}
    (paced : Paced runner delay) (several : 1 ≤ fewer) (le : fewer ≤ more)
    (earlyScheduled : Scheduled { configuration with jobs := more } image runner calls origin early
      earlyEvents)
    (lateScheduled : Scheduled { configuration with jobs := fewer } image runner calls origin late
      lateEvents) :
    List.Forall₂ Turn.NoLater early late := by
  refine Follows.noLater paced several le ?_ earlyScheduled.lasting lateScheduled.lasting
    earlyScheduled.follows lateScheduled.follows
  rw [earlyScheduled.planned, lateScheduled.planned]
  exact (plannedCalls_jobs more calls configuration.inputs).trans
    (plannedCalls_jobs fewer calls configuration.inputs).symm

/-- A batch that has run, with the turns of its files. -/
structure Batched (configuration : Configuration) (image : Path) (runner : Runner)
    (world last : World) (turns : List Turn) : Prop where
  ran : ∃ reports, compile configuration runner world = (.ok reports, last)
  time : last.time = latest world.time turns
  traced : ∃ record events, last.trace = world.trace ++ .logged record :: events ∧
    Scheduled configuration image runner world.calls world.time turns events

/-- A run that has evaluated its forms behind a batch, with the turns of the files and the time at
which the evaluation started. -/
structure Evaluated (configuration : Configuration) (image : Path) (runner : Runner)
    (world last : World) (turns : List Turn) (start : Nat) : Prop where
  ran : ∃ steps, whole configuration runner world =
    (.ok { mode := .compile true, steps := steps }, last)
  traced : ∃ records events after call,
    last.trace = world.trace ++ List.map .logged records ++ events ++ after ∧
      Scheduled configuration image runner world.calls world.time turns events ∧
      Event.starts after = [(start, call)] ∧ call.command = evaluateCommand configuration image
  start : start = latest world.time turns

theorem compile_batched (configuration : Configuration)
    (imaged : configuration.compilerImage = some image) (several : 1 ≤ configuration.jobs)
    (runner : Runner) (world : World) :
    ∃ last turns, Batched configuration image runner world last turns := by
  obtain ⟨reports, last, record, events, turns, ran, _, traced, time, scheduled⟩ :=
    compile_scheduled runner imaged several world
  exact ⟨last, turns, ⟨reports, ran⟩, time, record, events, traced, scheduled⟩

theorem whole_evaluated (configuration : Configuration)
    (imaged : configuration.compilerImage = some image) (several : 1 ≤ configuration.jobs)
    (unsourced : configuration.bootstrapSource = none) (formed : configuration.forms ≠ [])
    (runner : Runner) (world : World) :
    ∃ last turns start, Evaluated configuration image runner world last turns start := by
  obtain ⟨next, turns, ⟨reports, ran⟩, time, record, events, traced, scheduled⟩ :=
    compile_batched configuration imaged several runner (modeWorld (.compile true) world)
  obtain ⟨last, evaluated, called⟩ := evaluate_ran imaged runner next
  obtain ⟨after, extended, starts, _⟩ := called.trace
  obtain ⟨modeRecord, noted⟩ := modeWorld_trace (.compile true) world
  refine ⟨last, turns, next.time, ⟨_, whole_of_forms unsourced formed ran evaluated⟩,
    ⟨[modeRecord, record], events, after, evaluateCall configuration image next, ?_, scheduled,
      starts, rfl⟩, time⟩
  rw [extended, traced, noted]
  simp only [List.map_cons, List.map_nil, List.append_assoc, List.cons_append, List.nil_append]

/-- With more jobs, every file of a batch starts and ends no later, the batch is over no later, and
an evaluation behind it starts no later. -/
theorem jobs_hasten (configuration : Configuration) (image : Path) (runner : Runner)
    (delay : Call → Nat) (world : World) (fewer more : Nat)
    (imaged : configuration.compilerImage = some image) (paced : Paced runner delay)
    (several : 1 ≤ fewer) (le : fewer ≤ more) :
    (∃ slowLast slow fastLast fast,
      Batched { configuration with jobs := fewer } image runner world slowLast slow ∧
      Batched { configuration with jobs := more } image runner world fastLast fast ∧
      List.Forall₂ Turn.NoLater fast slow ∧ fastLast.time ≤ slowLast.time) ∧
    (configuration.bootstrapSource = none → configuration.forms ≠ [] →
      ∃ slowLast slow slowStart fastLast fast fastStart,
        Evaluated { configuration with jobs := fewer } image runner world slowLast slow
          slowStart ∧
        Evaluated { configuration with jobs := more } image runner world fastLast fast
          fastStart ∧
        List.Forall₂ Turn.NoLater fast slow ∧ fastStart ≤ slowStart) := by
  have someMore : 1 ≤ more := Nat.le_trans several le
  constructor
  · obtain ⟨slowLast, slow, batched⟩ :=
      compile_batched { configuration with jobs := fewer } imaged several runner world
    obtain ⟨fastLast, fast, fastBatched⟩ :=
      compile_batched { configuration with jobs := more } imaged someMore runner world
    obtain ⟨_, _, _, scheduled⟩ := batched.traced
    obtain ⟨_, _, _, fastScheduled⟩ := fastBatched.traced
    have sooner := Scheduled.noLater paced several le fastScheduled scheduled
    refine ⟨slowLast, slow, fastLast, fast, batched, fastBatched, sooner, ?_⟩
    rw [batched.time, fastBatched.time]
    exact latest_mono world.time sooner
  · intro unsourced formed
    obtain ⟨slowLast, slow, slowStart, evaluated⟩ :=
      whole_evaluated { configuration with jobs := fewer } imaged several unsourced formed
        runner world
    obtain ⟨fastLast, fast, fastStart, fastEvaluated⟩ :=
      whole_evaluated { configuration with jobs := more } imaged someMore unsourced formed
        runner world
    obtain ⟨_, _, _, _, _, scheduled, _⟩ := evaluated.traced
    obtain ⟨_, _, _, _, _, fastScheduled, _⟩ := fastEvaluated.traced
    have sooner := Scheduled.noLater paced several le fastScheduled scheduled
    refine ⟨slowLast, slow, slowStart, fastLast, fast, fastStart, evaluated, fastEvaluated,
      sooner, ?_⟩
    rw [evaluated.start, fastEvaluated.start]
    exact latest_mono world.time sooner

/-- Three files and a form. With one job the calls end at 0, 1 and 3, with two jobs at 0, 1 and 2.
-/
def threeFiles : Configuration :=
  { twoFiles with inputs := [⟨[97]⟩, ⟨[98]⟩, ⟨[99]⟩] }

theorem threeFiles_hastened :
    (∃ slowLast slow fastLast fast,
      Batched { threeFiles with jobs := 1 } twoFilesImage staggered { tree := {} } slowLast slow ∧
      Batched { threeFiles with jobs := 2 } twoFilesImage staggered { tree := {} } fastLast fast ∧
      List.Forall₂ Turn.NoLater fast slow ∧ fastLast.time ≤ slowLast.time) ∧
    ∃ slowLast slow slowStart fastLast fast fastStart,
      Evaluated { threeFiles with jobs := 1 } twoFilesImage staggered { tree := {} } slowLast slow
        slowStart ∧
      Evaluated { threeFiles with jobs := 2 } twoFilesImage staggered { tree := {} } fastLast fast
        fastStart ∧
      List.Forall₂ Turn.NoLater fast slow ∧ fastStart ≤ slowStart := by
  obtain ⟨batches, runs⟩ := jobs_hasten threeFiles twoFilesImage staggered
    (fun call => call.index) { tree := {} } 1 2 rfl (fun _ _ => rfl) (by decide) (by decide)
  exact ⟨batches, runs rfl (List.cons_ne_nil _ _)⟩

end CompilerDriver.Run
