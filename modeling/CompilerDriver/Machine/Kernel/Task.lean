import CompilerDriver.Machine.Kernel.Files

/-!
What processes do, step by step. A step looks at the machine and changes it, or has to wait and is
tried again when another process has made a step. Programs are written as functions of what is to be
done with their result, so that a program and what comes after it are one task. Of the processes
that can go on, the one that has been ready for longest makes the next step.
-/

namespace CompilerDriver.Machine.Kernel

mutual

inductive Task where
  | exit (status : Nat)
  | step (action : Nat → Kernel → Outcome)

inductive Outcome where
  | wait
  | go (kernel : Kernel) (rest : Task)
  | fork (kernel : Kernel) (number : Nat) (child rest : Task)

end

instance : Inhabited Task := ⟨.exit 0⟩

def Proc (α : Type) := (α → Task) → Task

namespace Proc

instance : Monad Proc where
  pure value := fun rest => rest value
  bind first next := fun rest => first fun value => next value rest

def call {α : Type} (operation : Nat → Kernel → Option (α × Kernel)) : Proc α := fun rest =>
  .step fun number kernel =>
    match operation number kernel with
    | none => .wait
    | some (value, next) => .go next (rest value)

def act {α : Type} (operation : Nat → Kernel → α × Kernel) : Proc α :=
  call fun number kernel => some (operation number kernel)

def ask {α : Type} (view : Nat → Kernel → α) : Proc α :=
  act fun number kernel => (view number kernel, kernel)

def change (operation : Nat → Kernel → Kernel) : Proc Unit :=
  act fun number kernel => ((), operation number kernel)

def attempt (operation : Nat → Kernel → Except OsError Kernel) : Proc (Except OsError Unit) :=
  act fun number kernel =>
    match operation number kernel with
    | .ok next => (.ok (), next)
    | .error error => (.error error, kernel)

def exit {α : Type} (status : Nat) : Proc α := fun _ => .exit (status % 256)

def hang {α : Type} : Proc α := fun _ => .step fun _ _ => .wait

def elapse (span : Nat) : Proc Unit :=
  change fun number kernel => kernel.delay number span

def forkSpan : Nat := 300000

/-- Starts a process that has everything this one has, apart from what is changed first. -/
def fork (prepare : Process → Process) (child : Proc Nat) : Proc Nat := fun rest =>
  .step fun number kernel =>
    let (copy, next) := kernel.copyProcess number
    let prepared := (next.modify copy prepare).delay copy forkSpan
    .fork prepared copy (child .exit) (rest copy)

def await (other : Nat) : Proc Ending :=
  call fun _ kernel =>
    match kernel.process? other with
    | none => some (.exited 127, kernel)
    | some process =>
        process.ending.map fun ending =>
          (ending, { kernel with processes := dropKey kernel.processes other })

def read (channel count : Nat) : Proc (Except OsError Bytes) :=
  call fun number kernel => kernel.read number channel count

def pieceSize : Nat := 131072

def writeFrom (channel : Nat) : (steps : Nat) → Bytes → Proc (Except OsError Unit)
  | 0, _ => pure (.ok ())
  | steps + 1, bytes =>
      if bytes.isEmpty then pure (.ok ())
      else do
        match ← call fun number kernel => kernel.write number channel bytes with
        | .error error => pure (.error error)
        | .ok count => writeFrom channel steps (bytes.drop count)

def write (channel : Nat) (bytes : Bytes) : Proc (Except OsError Unit) :=
  writeFrom channel (bytes.length + 1) bytes

/-- Reads to the end, piece by piece. What was read before an error is kept. -/
def readFrom (channel : Nat) : (steps : Nat) → List Bytes → Proc (Bytes × Option OsError)
  | 0, pieces => pure (pieces.reverse.flatten, none)
  | steps + 1, pieces => do
      match ← read channel pieceSize with
      | .error error => pure (pieces.reverse.flatten, some error)
      | .ok [] => pure (pieces.reverse.flatten, none)
      | .ok piece => readFrom channel steps (piece :: pieces)

def readLimit : Nat := 1000000000

def readAll (channel : Nat) : Proc (Bytes × Option OsError) :=
  readFrom channel readLimit []

end Proc

/-- The machine with what is left to do for each process. -/
structure Schedule where
  kernel : Kernel
  tasks : List (Nat × Task)
  deriving Inhabited

namespace Schedule

def choose (kernel : Kernel) : List (Nat × Task) → Option ((Nat × Task) × List (Nat × Task))
  | [] => none
  | [only] => some (only, [])
  | first :: next :: rest =>
      match choose kernel (next :: rest) with
      | none => some (first, next :: rest)
      | some (best, others) =>
          if (kernel.process best.1).ready < (kernel.process first.1).ready then
            some (best, first :: others)
          else some (first, best :: others)

def isRunnable (kernel : Kernel) (number : Nat) : Bool :=
  match kernel.process? number with
  | some process => !hasEnded process && !process.isStopped
  | none => false

def reach (kernel : Kernel) (number : Nat) : Kernel :=
  let time := max kernel.clock (kernel.process number).ready
  { kernel.modify number fun process => { process with ready := time } with clock := time }

def living (kernel : Kernel) (tasks : List (Nat × Task)) : List (Nat × Task) :=
  tasks.filter fun entry =>
    match kernel.process? entry.1 with
    | some process => !hasEnded process
    | none => false

def advanceFrom (schedule : Schedule) (limit : Option Nat) :
    (steps : Nat) → List (Nat × Task) → Option Schedule
  | 0, _ => none
  | steps + 1, candidates =>
      match choose schedule.kernel candidates with
      | none => none
      | some ((number, task), others) =>
          let kernel := reach schedule.kernel number
          if limit.any (· ≤ kernel.clock) then none
          else
            let keep (kernel : Kernel) (rest : Task) (more : List (Nat × Task)) : Schedule :=
              let tasks := alter schedule.tasks number fun _ => rest
              { kernel := kernel, tasks := living kernel (tasks ++ more) }
            let conclude (ending : Ending) : Schedule :=
              let ended := kernel.conclude number ending
              { kernel := ended, tasks := living ended schedule.tasks }
            match (kernel.process number).doom, task with
            | some signal, _ => some (conclude (.signalled signal))
            | none, .exit status => some (conclude (.exited status))
            | none, .step action =>
                match action number kernel with
                | .wait => advanceFrom schedule limit steps others
                | .go next rest => some (keep next rest [])
                | .fork next copy child rest => some (keep next rest [(copy, child)])

/-- One step of one process, or nothing when all of them have to wait, or have to wait beyond the
limit. -/
def advance (schedule : Schedule) (limit : Option Nat) : Option Schedule :=
  let candidates := schedule.tasks.filter fun entry => isRunnable schedule.kernel entry.1
  advanceFrom schedule limit candidates.length candidates

def run (limit : Option Nat) (isDone : Kernel → Bool) : (steps : Nat) → Schedule → Schedule
  | 0, schedule => schedule
  | steps + 1, schedule =>
      if isDone schedule.kernel then schedule
      else
        match schedule.advance limit with
        | some next => run limit isDone steps next
        | none => schedule

end Schedule

end CompilerDriver.Machine.Kernel
