import CompilerDriver.Proofs.Run.Halves

/-!
The states that a batch comes to. Beside each state stands the history of its files: when each one
entered the window, and the call it made, with the tree that the runner was shown. A state is left
by one of four moves. A call that takes no time is launched and landed in two of them.
-/

namespace CompilerDriver.Run

/-- The stay of a file in the window: when it entered, and its call, when it made one. -/
structure Stay where
  file : Path
  time : Nat
  launch? : Option (Call × FileTree) := none

namespace Stay

def call? (stay : Stay) : Option Call :=
  stay.launch?.map Prod.fst

def delay (runner : Runner) (stay : Stay) : Nat :=
  match stay.launch? with
  | some (call, tree) => (runner call tree).duration
  | none => 0

def finish (runner : Runner) (stay : Stay) : Nat :=
  stay.time + stay.delay runner

end Stay

/-- The files in front of a window that is not settled are still at work. -/
def Unsettled (window : List Slot) : Prop :=
  ∀ report rest, window ≠ .finished report :: rest

/-- Time passes for a call only when nothing else can happen: no finished file can leave, no file
can enter, and no other call ends before. -/
structure Due (jobs : Nat) (window : List Slot) (waiting : List Path) (finish : Nat) : Prop where
  unsettled : Unsettled window
  full : waiting = [] ∨ jobs ≤ window.length
  earliest : ∀ slot ∈ window, ∀ other, slot.finish? = some other → finish ≤ other

inductive Reached (configuration : Configuration) (image : Path) (runner : Runner)
    (first : World) : Batch → List Stay → Prop where
  | start : Reached configuration image runner first
      { world := first, waiting := configuration.inputs } []
  | leave {world done report window waiting stays}
      (before : Reached configuration image runner first
        ⟨world, done, .finished report :: window, waiting⟩ stays) :
      Reached configuration image runner first
        ⟨world, done ++ [report], window, waiting⟩ stays
  | refuse {world done window file waiting stays error}
      (before : Reached configuration image runner first
        ⟨world, done, window, file :: waiting⟩ stays)
      (unsettled : Unsettled window) (room : window.length < configuration.jobs)
      (unnamed : Template.outputFor configuration.template file = .error error) :
      Reached configuration image runner first
        ⟨world, done, window ++ [.finished (refusal file error)], waiting⟩
        (stays ++ [{ file := file, time := world.time }])
  | launch {world done window file waiting stays target}
      (before : Reached configuration image runner first
        ⟨world, done, window, file :: waiting⟩ stays)
      (unsettled : Unsettled window) (room : window.length < configuration.jobs)
      (named : Template.outputFor configuration.template file = .ok target) :
      Reached configuration image runner first
        ⟨afterOpening configuration image runner file world, done,
          window ++ [.compiling (opened configuration image runner file target world)], waiting⟩
        (stays ++
          [{ file := file
             time := world.time
             launch? := some (openingCall configuration image file world, world.tree) }])
  | land {world done front step back waiting stays}
      (before : Reached configuration image runner first
        ⟨world, done, front ++ .compiling step :: back, waiting⟩ stays)
      (due : step.flight.finish ≤ world.time ∨
        Due configuration.jobs (front ++ .compiling step :: back) waiting step.flight.finish) :
      Reached configuration image runner first
        ⟨(endCompile configuration step world).2, done,
          front ++ .finished (endCompile configuration step world).1 :: back, waiting⟩ stays

variable {configuration : Configuration} {image : Path} {runner : Runner} {first : World}

theorem step?_finished (world : World) (done : List StepReport) (report : StepReport)
    (window : List Slot) (waiting : List Path) :
    Batch.step? configuration image runner ⟨world, done, .finished report :: window, waiting⟩ =
      some ⟨world, done ++ [report], window, waiting⟩ := rfl

theorem step?_unsettled {window : List Slot} (unsettled : Unsettled window) (world : World)
    (done : List StepReport) (waiting : List Path) :
    Batch.step? configuration image runner ⟨world, done, window, waiting⟩ =
      match waiting with
      | file :: rest =>
          if window.length < configuration.jobs then
            some (Batch.enter configuration image runner file rest ⟨world, done, window, waiting⟩)
          else Batch.wait? configuration ⟨world, done, window, waiting⟩
      | [] => Batch.wait? configuration ⟨world, done, window, waiting⟩ := by
  cases window with
  | nil => rfl
  | cons slot rest =>
      cases slot with
      | finished report => exact absurd rfl (unsettled report rest)
      | compiling step => rfl

theorem unsettled_or_finished (window : List Slot) :
    Unsettled window ∨ ∃ report rest, window = .finished report :: rest := by
  cases window with
  | nil => exact Or.inl (by intro report rest same; cases same)
  | cons slot rest =>
      cases slot with
      | finished report => exact Or.inr ⟨report, rest, rfl⟩
      | compiling step => exact Or.inl (by intro report others same; cases same)

theorem Reached.enter {world : World} {done : List StepReport} {window : List Slot} {file : Path}
    {rest : List Path} {stays : List Stay}
    (before : Reached configuration image runner first
      ⟨world, done, window, file :: rest⟩ stays)
    (unsettled : Unsettled window) (room : window.length < configuration.jobs) :
    ∃ next, Reached configuration image runner first
      (Batch.enter configuration image runner file rest ⟨world, done, window, file :: rest⟩)
      next := by
  unfold Batch.enter
  cases named : Template.outputFor configuration.template file with
  | error error =>
      rw [beginCompile_of_unnamed named]
      exact ⟨_, before.refuse unsettled room named⟩
  | ok target =>
      rw [beginCompile_of_named named]
      have launched := before.launch unsettled room named
      by_cases instant : (opened configuration image runner file target world).flight.finish ≤
          (afterOpening configuration image runner file world).time
      · simp only [if_pos instant]
        exact ⟨_, launched.land (Or.inl instant)⟩
      · simp only [if_neg instant]
        exact ⟨_, launched⟩

variable (configuration) in
/-- A call that ends at a time is ended in its own place, and nothing else in the window changes. -/
theorem settleAt_eq (world : World) (time : Nat) (window : List Slot)
    (present : ∃ slot ∈ window, slot.finish? = some time) :
    ∃ front step back, window = front ++ .compiling step :: back ∧ step.flight.finish = time ∧
      Batch.settleAt configuration time world window =
        (front ++ .finished (endCompile configuration step world).1 :: back,
          (endCompile configuration step world).2) := by
  induction window with
  | nil =>
      obtain ⟨slot, member, _⟩ := present
      cases member
  | cons slot rest ih =>
      cases slot with
      | finished report =>
          have later : ∃ slot ∈ rest, slot.finish? = some time := by
            obtain ⟨slot, member, found⟩ := present
            rcases List.mem_cons.mp member with same | later
            · subst slot; cases found
            · exact ⟨slot, later, found⟩
          obtain ⟨front, step, back, split, atTime, settled⟩ := ih later
          refine ⟨.finished report :: front, step, back, by rw [split]; rfl, atTime, ?_⟩
          simp only [Batch.settleAt, settled, List.cons_append]
      | compiling step =>
          by_cases here : step.flight.finish = time
          · exact ⟨[], step, rest, rfl, here, by simp only [Batch.settleAt, if_pos here]; rfl⟩
          · have later : ∃ slot ∈ rest, slot.finish? = some time := by
              obtain ⟨slot, member, found⟩ := present
              rcases List.mem_cons.mp member with same | later
              · subst slot; exact absurd (Option.some.inj found) here
              · exact ⟨slot, later, found⟩
            obtain ⟨front, other, back, split, atTime, settled⟩ := ih later
            refine ⟨.compiling step :: front, other, back, by rw [split]; rfl, atTime, ?_⟩
            simp only [Batch.settleAt, if_neg here, settled, List.cons_append]

theorem earliest?_eq_some {window : List Slot} {time : Nat}
    (found : Batch.earliest? window = some time) :
    (∃ slot ∈ window, slot.finish? = some time) ∧
      ∀ slot ∈ window, ∀ other, slot.finish? = some other → time ≤ other := by
  unfold Batch.earliest? at found
  obtain ⟨member, least⟩ := List.min?_eq_some_iff.mp found
  constructor
  · obtain ⟨slot, inside, timed⟩ := List.mem_filterMap.mp member
    exact ⟨slot, inside, timed⟩
  · intro slot inside other timed
    exact least other (List.mem_filterMap.mpr ⟨slot, inside, timed⟩)

theorem Reached.wait {world : World} {done : List StepReport} {window : List Slot}
    {waiting : List Path} {stays : List Stay} {next : Batch}
    (before : Reached configuration image runner first ⟨world, done, window, waiting⟩ stays)
    (unsettled : Unsettled window) (full : waiting = [] ∨ configuration.jobs ≤ window.length)
    (waited : Batch.wait? configuration ⟨world, done, window, waiting⟩ = some next) :
    Reached configuration image runner first next stays := by
  obtain ⟨time, found, same⟩ := Option.map_eq_some_iff.mp waited
  obtain ⟨present, least⟩ := earliest?_eq_some found
  obtain ⟨front, step, back, split, atTime, settled⟩ :=
    settleAt_eq configuration world time window present
  simp only [settled] at same
  subst same split
  exact before.land (Or.inr ⟨unsettled, full, by rw [atTime]; exact least⟩)

theorem Reached.step {batch next : Batch} {stays : List Stay}
    (before : Reached configuration image runner first batch stays)
    (stepped : batch.step? configuration image runner = some next) :
    ∃ later, Reached configuration image runner first next later := by
  obtain ⟨world, done, window, waiting⟩ := batch
  rcases unsettled_or_finished window with unsettled | ⟨report, rest, rfl⟩
  · rw [step?_unsettled unsettled] at stepped
    cases waiting with
    | nil => exact ⟨stays, before.wait unsettled (Or.inl rfl) stepped⟩
    | cons file rest =>
        by_cases room : window.length < configuration.jobs
        · simp only [if_pos room, Option.some.injEq] at stepped
          subst next
          exact before.enter unsettled room
        · simp only [if_neg room] at stepped
          exact ⟨stays, before.wait unsettled (Or.inr (Nat.le_of_not_lt room)) stepped⟩
  · rw [step?_finished, Option.some.injEq] at stepped
    subst next
    exact ⟨stays, before.leave⟩

theorem Reached.advance {batch : Batch} {stays : List Stay}
    (before : Reached configuration image runner first batch stays) (steps : Nat) :
    ∃ later, Reached configuration image runner first
      (batch.advance configuration image runner steps) later := by
  induction steps generalizing batch stays with
  | zero => exact ⟨stays, before⟩
  | succ steps ih =>
      unfold Batch.advance
      cases stepped : batch.step? configuration image runner with
      | none => exact ⟨stays, before⟩
      | some next =>
          obtain ⟨later, reached⟩ := before.step stepped
          exact ih reached

/-! ### A batch comes to its end -/

def windowWork (window : List Slot) : Nat :=
  window.foldr (fun slot rest => slot.work + rest) 0

theorem windowWork_append (left right : List Slot) :
    windowWork (left ++ right) = windowWork left + windowWork right := by
  induction left with
  | nil => exact (Nat.zero_add _).symm
  | cons slot rest ih =>
      change slot.work + windowWork (rest ++ right) = slot.work + windowWork rest + windowWork right
      rw [ih, Nat.add_assoc]

theorem work_eq (batch : Batch) :
    batch.work = 3 * batch.waiting.length + windowWork batch.window := rfl

theorem enter_work_lt (file : Path) (rest : List Path) (batch : Batch)
    (next : batch.waiting = file :: rest) :
    (batch.enter configuration image runner file rest).work < batch.work := by
  have entered : ∃ slot, (batch.enter configuration image runner file rest).window =
        batch.window ++ [slot] ∧
      (batch.enter configuration image runner file rest).waiting = rest := by
    unfold Batch.enter
    rcases beginCompile configuration image runner file batch.world with ⟨report | step, world⟩
    · exact ⟨_, rfl, rfl⟩
    · simp only
      split
      · exact ⟨_, rfl, rfl⟩
      · exact ⟨_, rfl, rfl⟩
  obtain ⟨slot, window, waiting⟩ := entered
  have small : windowWork [slot] ≤ 2 := by
    cases slot <;> simp [windowWork, Slot.work]
  rw [work_eq, work_eq, window, waiting, next, windowWork_append, List.length_cons]
  omega

theorem wait?_work_lt {batch next : Batch} (waited : batch.wait? configuration = some next) :
    next.work < batch.work := by
  obtain ⟨time, found, same⟩ := Option.map_eq_some_iff.mp waited
  obtain ⟨front, step, back, split, _, settled⟩ :=
    settleAt_eq configuration batch.world time batch.window
      (earliest?_eq_some found).1
  simp only [settled] at same
  subst same
  rw [work_eq, work_eq, split, windowWork_append, windowWork_append]
  change 3 * batch.waiting.length + (windowWork front + (1 + windowWork back)) <
    3 * batch.waiting.length + (windowWork front + (2 + windowWork back))
  omega

theorem step?_work_lt {batch next : Batch}
    (stepped : batch.step? configuration image runner = some next) : next.work < batch.work := by
  obtain ⟨world, done, window, waiting⟩ := batch
  rcases unsettled_or_finished window with unsettled | ⟨report, rest, rfl⟩
  · rw [step?_unsettled unsettled] at stepped
    cases waiting with
    | nil => exact wait?_work_lt stepped
    | cons file rest =>
        by_cases room : window.length < configuration.jobs
        · simp only [if_pos room, Option.some.injEq] at stepped
          subst next
          exact enter_work_lt file rest _ rfl
        · simp only [if_neg room] at stepped
          exact wait?_work_lt stepped
  · rw [step?_finished, Option.some.injEq] at stepped
    subst next
    change 3 * waiting.length + windowWork rest < 3 * waiting.length + (1 + windowWork rest)
    omega

variable (configuration image runner) in
theorem advance_stuck (steps : Nat) (batch : Batch) (enough : batch.work ≤ steps) :
    (batch.advance configuration image runner steps).step? configuration image runner = none := by
  induction steps generalizing batch with
  | zero =>
      cases stepped : batch.step? configuration image runner with
      | none => exact stepped
      | some next =>
          have less := step?_work_lt stepped
          omega
  | succ steps ih =>
      unfold Batch.advance
      cases stepped : batch.step? configuration image runner with
      | none => exact stepped
      | some next =>
          have less := step?_work_lt stepped
          exact ih next (by omega)

/-- Nothing is left to do only when the window is empty, and when no file waits that could enter. -/
theorem stuck_empty {batch : Batch} (stuck : batch.step? configuration image runner = none) :
    batch.window = [] ∧ (batch.waiting = [] ∨ configuration.jobs = 0) := by
  obtain ⟨world, done, window, waiting⟩ := batch
  rcases unsettled_or_finished window with unsettled | ⟨report, rest, rfl⟩
  · have drained (idle : Batch.wait? configuration ⟨world, done, window, waiting⟩ = none) :
        window = [] := by
      have silent := List.min?_eq_none_iff.mp (Option.map_eq_none_iff.mp idle)
      cases window with
      | nil => rfl
      | cons slot rest =>
          cases slot with
          | finished report => exact absurd rfl (unsettled report rest)
          | compiling step => cases silent
    rw [step?_unsettled unsettled] at stuck
    cases waiting with
    | nil => exact ⟨drained stuck, Or.inl rfl⟩
    | cons file rest =>
        by_cases room : window.length < configuration.jobs
        · simp only [if_pos room] at stuck
          cases stuck
        · simp only [if_neg room] at stuck
          have empty := drained stuck
          subst empty
          exact ⟨rfl, Or.inr (Nat.eq_zero_of_not_pos room)⟩
  · cases stuck

def batchWorld (configuration : Configuration) (world : World) : World :=
  world.log
    { level := .debug
      message := "compiling batch"
      fields :=
        [("files", .number configuration.inputs.length), ("jobs", .number configuration.jobs)] }

variable (runner) in
/-- With an image a batch always comes to an end, and nothing is left in its window. -/
theorem compile_reached (imaged : configuration.compilerImage = some image) (world : World) :
    ∃ last done waiting stays,
      compile configuration runner world = (.ok done, last) ∧
      Reached configuration image runner (batchWorld configuration world)
        ⟨last, done, [], waiting⟩ stays ∧
      (waiting = [] ∨ configuration.jobs = 0) := by
  let initial : Batch :=
    { world := batchWorld configuration world, waiting := configuration.inputs }
  have ran : compile configuration runner world =
      (.ok (initial.finish configuration image runner).done,
        (initial.finish configuration image runner).world) := by
    unfold compile Configuration.image
    rw [imaged]
    rfl
  have stuck := advance_stuck configuration image runner initial.work initial (Nat.le_refl _)
  have begun : Reached configuration image runner (batchWorld configuration world) initial [] :=
    Reached.start
  obtain ⟨stays, reached⟩ := begun.advance initial.work
  change Reached _ _ _ _ (initial.finish configuration image runner) stays at reached
  change (initial.finish configuration image runner).step? configuration image runner = none at stuck
  obtain ⟨empty, complete⟩ := stuck_empty stuck
  generalize initial.finish configuration image runner = last at ran reached empty complete
  obtain ⟨world', done, window, waiting⟩ := last
  subst empty
  exact ⟨world', done, waiting, stays, ran, reached, complete⟩

end CompilerDriver.Run
