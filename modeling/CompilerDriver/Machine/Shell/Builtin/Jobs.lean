import CompilerDriver.Machine.Shell.Builtin.Support
import CompilerDriver.Machine.Shell.Expansion
import CompilerDriver.Machine.Shell.Job

/-!
The commands for other processes: signals to them, what the shell does on signals, and the jobs that
it has started.
-/

namespace CompilerDriver.Machine.Shell.Builtin

open Act
open Kernel (Ending Proc)

/-- The job that a word with a percent sign names, or the message that there is none. -/
def findJob (memory : Memory) (word : Bytes) : Except Bytes Job :=
  let missing := Except.error (Bytes.ofText "No such job: " ++ word)
  match word with
  | [0x25] | [0x25, 0x2B] | [0x25, 0x25] =>
      (memory.jobs.head?.map Except.ok).getD (.error (Bytes.ofText "No current job"))
  | [0x25, 0x2D] =>
      (memory.jobs[1]?.map Except.ok).getD (.error (Bytes.ofText "No previous job"))
  | 0x25 :: digits =>
      match Arithmetic.count? digits with
      | some number =>
          match memory.jobs.find? fun job => job.number == number with
          | some job => .ok job
          | none => missing
      | none => missing
  | _ => missing

def namedJob (word : Bytes) : Act Job := do
  match findJob (← get) word with
  | .ok job => return job
  | .error message => fail message

def killUsage : String :=
  "Usage: kill [-s sigspec | -signum | -sigspec] [pid | job]... or\nkill -l [exitstatus]"

/-- Sends a signal to a process. The first process of the machine takes none of them. -/
def sendTo (signal target : Nat) : Act Bool :=
  run <| Proc.act fun number kernel =>
    match kernel.process? target with
    | some _ => (true, kernel.send number target signal)
    | none => (target == 1, kernel)

/-- Sends to processes by number. The processes of a job are no group that could be reached. -/
def sendAll (signal : Nat) : (failed : Bool) → List Bytes → Act Nat
  | failed, [] => return if failed then 1 else 0
  | failed, target :: rest => do
      let isReached ←
        match target with
        | 0x25 :: _ => do
            let _ ← namedJob target
            pure false
        | 0x2D :: digits => do
            let _ ← count digits
            pure false
        | _ => do sendTo signal (← count target)
      unless isReached do complainText "No such process\n"
      sendAll signal (failed || !isReached) rest

def nameSignal (word : Bytes) : Act Nat := do
  let number ← count word
  let signal := if 128 < number then number - 128 else number
  if 0 < signal && signal ≤ Kernel.Signal.last then
    printText (Kernel.Signal.name signal ++ "\n")
  else fail (Bytes.ofText "invalid signal number or exit status: " ++ word)

def signalNames : String :=
  "0\n" ++ String.join (Kernel.Signal.all.map fun signal => Kernel.Signal.name signal ++ "\n")

/-- Lists signals, or sends one: the one that was named, or the one that asks to end. -/
def killWith (lists : Bool) (signal : Option Nat) (targets : List Bytes) : Act Nat :=
  match lists, signal, targets with
  | true, some _, _ => failText killUsage
  | true, none, [] => printText signalNames
  | true, none, word :: _ => nameSignal word
  | false, _, [] => failText killUsage
  | false, _, _ => sendAll (signal.getD Kernel.Signal.terminate) false targets

def kill : Action := fun words => do
  match words with
  | [] => failText killUsage
  | (0x2D :: name) :: rest =>
      match Kernel.Signal.ofWord? 1 name with
      | some signal => killWith false (some signal) rest
      | none =>
          let (given, targets) ← takeOptions "ls:" words
          let asked := (given.filter fun option => option.letter == 0x73).getLast?
          let signal ←
            match asked with
            | none => pure none
            | some option =>
                match Kernel.Signal.ofWord? 1 option.word with
                | some signal => pure (some signal)
                | none => fail (Bytes.ofText "invalid signal number or name: " ++ option.word)
          killWith (has 'l' given) signal targets
  | _ => killWith false none words

def arrange (signal : Nat) (action : Option Bytes) : Act Unit :=
  run <| Proc.change fun number kernel => kernel.modify number fun process =>
    let caught := process.caught.filter (· != signal)
    let ignored := process.ignored.filter (· != signal)
    match action with
    | none => { process with caught := caught, ignored := ignored }
    | some [] => { process with caught := caught, ignored := signal :: ignored }
    | some _ => { process with caught := signal :: caught, ignored := ignored }

/-- Sets what is done on a signal. One that was ignored when the shell began stays ignored. -/
def setTrap (signal : Nat) (action : Option Bytes) : Act Unit := do
  let memory ← get
  let others := Kernel.dropKey memory.traps signal
  modify fun memory =>
    { memory with
      traps :=
        match action with
        | some script => (signal, script) :: others
        | none => others }
  unless signal = 0 || memory.unheard.contains signal do arrange signal action

def trapListing (memory : Memory) : Bytes :=
  (0 :: Kernel.Signal.all).flatMap fun signal =>
    match memory.traps.lookup signal with
    | some action =>
        Bytes.ofText "trap -- " ++ quoted action ++
          Bytes.ofText (" " ++ Kernel.Signal.name signal ++ "\n")
    | none => []

def setTraps (action : Option Bytes) : List Bytes → Act Nat
  | [] => return 0
  | word :: rest => do
      match Kernel.Signal.ofWord? 0 word with
      | some signal =>
          setTrap signal action
          setTraps action rest
      | none =>
          say 2 (Bytes.ofText "trap: " ++ word ++ Bytes.ofText ": bad trap\n")
          return 1

/-- Sets or lists what is done on signals. A first word that is a number, or alone, names a signal,
and with a minus sign what was set is dropped. -/
def trap : Action := fun words => do
  match (← takeOptions "" words).2 with
  | [] => print (trapListing (← get))
  | [only] => setTraps none [only]
  | first :: rest =>
      if Expansion.isNumber first && (Kernel.Signal.ofWord? 0 first).isSome then
        setTraps none (first :: rest)
      else setTraps (if first = [0x2D] then none else some first) rest

def deepSpan : Nat := 1000000

def wakeSpan : Nat := 50000

def endedOf (kernel : Kernel) (processes : List Nat) : Bool :=
  processes.any fun process => ((kernel.process? process).bind Kernel.Process.ending).isSome

/-- Waits until something holds of the jobs or a caught signal comes in, and says which signal. A
process that ends before the shell is awake comes before the signal. -/
def waitUntil (isReached : List Job → Bool) : (steps : Nat) → Act (Option Nat)
  | 0 => return none
  | steps + 1 => do
      reap
      if isReached (← get).jobs then return none
      else
        let running := (← get).jobs.flatMap fun job =>
          job.processes.filter fun process => (job.endingOf process).isNone
        let start ← run (Proc.ask fun _ kernel => kernel.clock)
        let signal ← run <| Proc.call fun number kernel =>
          match (kernel.process number).pending.getLast?, endedOf kernel running with
          | _, true => some (none, kernel)
          | some signal, false =>
              let isDeep := start + deepSpan < kernel.clock
              some (some signal, if isDeep then kernel.delay number wakeSpan else kernel)
          | none, false => none
        match signal with
        | some signal =>
            if ← run (Proc.ask fun _ kernel => endedOf kernel running) then
              waitUntil isReached steps
            else return some signal
        | none => waitUntil isReached steps

def markWaited (isWaited : Job → Bool) : Act Unit :=
  modify fun memory =>
    { memory with
      jobs := memory.jobs.map fun job =>
        if isWaited job then { job with isWaited := true } else job }

def waitLimit : Nat := 1000000000

def cutShort (signal : Nat) : Nat :=
  128 + signal

/-- Waits for a job by its number. What its processes were ended by is told. -/
def waitForJob (number : Nat) : Act (Except Nat Nat) := do
  let before := (← get).jobs
  let isDone (jobs : List Job) : Bool :=
    jobs.all fun job => job.number != number || job.isDone
  match ← waitUntil isDone waitLimit with
  | some signal => return .error (cutShort signal)
  | none =>
      let old := before.find? fun job => job.number == number
      match (← get).jobs.find? fun job => job.number == number with
      | none => return .ok 0
      | some job =>
          forEach
            (fun entry =>
              if (old.bind fun old => old.endingOf entry.1).isNone then say 2 (Job.report entry.2)
              else pure ())
            job.endings.reverse
          markWaited fun job => job.number == number
          return .ok job.status

def waitForAll : Act Nat := do
  match ← waitUntil (fun jobs => jobs.all Job.isDone) waitLimit with
  | some signal => return cutShort signal
  | none =>
      markWaited fun _ => true
      return 0

/-- Waits for jobs one after another. A process that is not known leaves the status as it is. -/
def waitForEach : (status : Nat) → List Bytes → Act Nat
  | status, [] => return status
  | status, word :: rest => do
      let job ←
        if word.head? = some 0x25 then do pure (some (← namedJob word))
        else do
          let process ← count word
          pure ((← get).jobs.find? fun job => job.leader == process)
      match job with
      | none => waitForEach status rest
      | some job =>
          match ← waitForJob job.number with
          | .ok status => waitForEach status rest
          | .error status => return status

def wait : Action := fun words => do
  match (← takeOptions "" words).2 with
  | [] => waitForAll
  | targets => waitForEach 127 targets

def listedWidth : Nat := 33

def jobLine (mark : Char) (withNumbers : Bool) (job : Job) : String :=
  let number := "[" ++ toString job.number ++ "] " ++ String.singleton mark ++ " "
  let first := if withNumbers then toString (job.processes.headD 0) ++ " " else ""
  let front := number ++ first ++ job.standing
  let pad (text : String) : String :=
    text ++ String.ofList (List.replicate (max 1 (listedWidth - text.length)) ' ')
  let others := job.processes.drop 1
  if withNumbers then
    String.join (pad front :: others.map fun process =>
      " |\n" ++ String.ofList (List.replicate number.length ' ') ++ toString process ++
        String.ofList (List.replicate listedWidth ' ')) ++ "\n"
  else pad front ++ String.join (others.map fun _ => " | ") ++ "\n"

def markOf (jobs : List Job) (job : Job) : Char :=
  match jobs.findIdx? fun other => other.number == job.number with
  | some 0 => '+'
  | some 1 => '-'
  | _ => ' '

/-- Shows jobs one by one. One that has ended is forgotten when it was shown. -/
def showJobs (withNumbers onlyNumbers : Bool) : List Job → Act Bytes
  | [] => return []
  | job :: rest => do
      let jobs := (← get).jobs
      if onlyNumbers then
        return Bytes.ofText (toString (job.processes.headD 0) ++ "\n") ++
          (← showJobs withNumbers onlyNumbers rest)
      else
        if job.isDone then
          modify fun memory =>
            { memory with jobs := memory.jobs.filter fun other => other.number != job.number }
        return Bytes.ofText (jobLine (markOf jobs job) withNumbers job) ++
          (← showJobs withNumbers onlyNumbers rest)

def listJobs : Action := fun words => do
  let (given, targets) ← takeOptions "lp" words
  reap
  let asked ←
    match targets with
    | [] => do pure (← get).jobs
    | _ => collect namedJob targets
  let last := given.getLast?.map Given.letter
  print (← showJobs (last == some 0x6C) (last == some 0x70) asked)

def moveJob : Action := fun words => do
  let (_, targets) ← takeOptions "" words
  let _ ← namedJob (targets.headD [0x25])
  let shown := targets.headD (Bytes.ofText "(null)")
  fail (Bytes.ofText "job " ++ shown ++ Bytes.ofText " not created under job control")

end CompilerDriver.Machine.Shell.Builtin
