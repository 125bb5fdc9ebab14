import CompilerDriver.Machine.Shell.Act

/-!
The processes that a shell starts. One that it waits for is told of when a signal ended it; the
others are kept as jobs, and what has become of them is noted between commands.
-/

namespace CompilerDriver.Machine.Shell

open Kernel (Ending Proc)

namespace Job

def endingOf (job : Job) (process : Nat) : Option Ending :=
  job.endings.lookup process

def isDone (job : Job) : Bool :=
  job.processes.all fun process => (job.endingOf process).isSome

def leader (job : Job) : Nat :=
  job.processes.getLast?.getD 0

def statusOf : Ending → Nat
  | .exited status => status
  | .signalled signal => 128 + signal

def status (job : Job) : Nat :=
  ((job.endingOf job.leader).map statusOf).getD 0

def isQuiet (signal : Nat) : Bool :=
  signal = Kernel.Signal.interrupt || signal = Kernel.Signal.brokenPipe

def report (ending : Ending) : Bytes :=
  match ending with
  | .exited _ => []
  | .signalled signal =>
      if isQuiet signal then [] else Bytes.ofText (Kernel.Signal.description signal ++ "\n")

def note (process : Nat) (ending : Ending) (job : Job) : Job :=
  if job.processes.contains process && (job.endingOf process).isNone then
    { job with endings := (process, ending) :: job.endings }
  else job

def standing (job : Job) : String :=
  match job.isDone, job.endingOf job.leader with
  | true, some (.exited 0) => "Done"
  | true, some (.exited status) => "Done(" ++ toString status ++ ")"
  | true, some (.signalled signal) => Kernel.Signal.description signal
  | _, _ => "Running"

end Job

namespace Act

def reap : Act Unit := do
  let memory ← get
  let running := memory.jobs.flatMap fun job =>
    job.processes.filter fun process => (job.endingOf process).isNone
  unless running.isEmpty do
    let ended ← run <| Proc.act fun _ kernel =>
      let found := running.filterMap fun process =>
        ((kernel.process? process).bind Kernel.Process.ending).map fun ending => (process, ending)
      let left := found.foldl (fun left entry => Kernel.dropKey left entry.1) kernel.processes
      (found, { kernel with processes := left })
    modify fun memory =>
      { memory with
        jobs := memory.jobs.map fun job =>
          ended.foldl (fun job entry => job.note entry.1 entry.2) job }

/-- Waits for processes that the shell has just started, and comes to the status of the last one. -/
def awaitAll : List Nat → Act Nat
  | [] => return 0
  | process :: rest => do
      let ending ← run (Proc.await process)
      say 2 (Job.report ending)
      if rest.isEmpty then return Job.statusOf ending else awaitAll rest

/-- The numbers of jobs that are taken. Those of jobs that were waited for to their end are free. -/
def freeNumber (jobs : List Job) : Nat :=
  let isTaken (number : Nat) : Bool :=
    jobs.any fun job => job.number == number && !(job.isDone && job.isWaited)
  ((List.range (jobs.length + 1)).map (· + 1)).find? (fun number => !isTaken number) |>.getD 1

def addJob (processes : List Nat) : Act Unit :=
  modify fun memory =>
    let number := freeNumber memory.jobs
    { memory with
      jobs := { number := number, processes := processes } ::
        memory.jobs.filter fun job => job.number != number
      latest := processes.getLast?.or memory.latest }

end Act

end CompilerDriver.Machine.Shell
