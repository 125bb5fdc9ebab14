import CompilerDriver.Run.Compile

/-!
A batch of files, compiled several at a time. Files enter a window in input order and leave it in
input order; a finished file behind an unfinished one keeps its place. Whenever the window has room,
the next file enters. Time passes only when every file in a full window, or every file that is left,
is waiting for its call.
-/

namespace CompilerDriver.Run

inductive Slot where
  | finished (report : StepReport)
  | compiling (step : Compiling)

structure Batch where
  world : World
  done : List StepReport := []
  window : List Slot := []
  waiting : List Path

namespace Slot

def finish? : Slot → Option Nat
  | .finished _ => none
  | .compiling step => some step.flight.finish

def work : Slot → Nat
  | .finished _ => 1
  | .compiling _ => 2

end Slot

namespace Batch

variable (configuration : Configuration) (image : Path) (runner : Runner)

/-- The next file enters the window. A file without a call, or with one that takes no time, is
finished when it enters. -/
def enter (file : Path) (rest : List Path) (batch : Batch) : Batch :=
  match beginCompile configuration image runner file batch.world with
  | (.inl report, world) =>
      { batch with
        world := world, window := batch.window ++ [.finished report], waiting := rest }
  | (.inr step, world) =>
      if step.flight.finish ≤ world.time then
        let (report, ended) := endCompile configuration step world
        { batch with
          world := ended, window := batch.window ++ [.finished report], waiting := rest }
      else
        { batch with world := world, window := batch.window ++ [.compiling step], waiting := rest }

def earliest? (window : List Slot) : Option Nat :=
  (window.filterMap Slot.finish?).min?

def settleAt (time : Nat) (world : World) : List Slot → List Slot × World
  | [] => ([], world)
  | .finished report :: rest =>
      let (slots, next) := settleAt time world rest
      (.finished report :: slots, next)
  | .compiling step :: rest =>
      if step.flight.finish = time then
        let (report, next) := endCompile configuration step world
        (.finished report :: rest, next)
      else
        let (slots, next) := settleAt time world rest
        (.compiling step :: slots, next)

def wait? (batch : Batch) : Option Batch :=
  (earliest? batch.window).map fun time =>
    let (slots, world) := settleAt configuration time batch.world batch.window
    { batch with world := world, window := slots }

/-- One step: a finished file at the front leaves; else the next file enters, if there is room; else
time passes. -/
def step? (batch : Batch) : Option Batch :=
  match batch.window with
  | .finished report :: rest =>
      some { batch with done := batch.done ++ [report], window := rest }
  | window =>
      match batch.waiting with
      | file :: rest =>
          if window.length < configuration.jobs then
            some (batch.enter configuration image runner file rest)
          else batch.wait? configuration
      | [] => batch.wait? configuration

/-- The steps that are still to be made. Each one lowers this number. -/
def work (batch : Batch) : Nat :=
  3 * batch.waiting.length + batch.window.foldr (fun slot rest => slot.work + rest) 0

def advance : Nat → Batch → Batch
  | 0, batch => batch
  | steps + 1, batch =>
      match batch.step? configuration image runner with
      | some next => advance steps next
      | none => batch

def finish (batch : Batch) : Batch :=
  batch.advance configuration image runner batch.work

end Batch

def compile (configuration : Configuration) (runner : Runner) (world : World) :
    Except ConfigError (List StepReport) × World :=
  match configuration.image with
  | .error error => (.error error, world)
  | .ok image =>
      let noted := world.log
        { level := .debug
          message := "compiling batch"
          fields :=
            [("files", .number configuration.inputs.length), ("jobs", .number configuration.jobs)] }
      let batch : Batch := { world := noted, waiting := configuration.inputs }
      let last := batch.finish configuration image runner
      (.ok last.done, last.world)

end CompilerDriver.Run
