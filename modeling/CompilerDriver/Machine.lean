import CompilerDriver.Machine.Program.Catalogue
import CompilerDriver.World

/-!
Equipment to run the driver on. The driver itself ends where it launches a command, and all that is
proved of it holds for every runner. This module and those below it (`Machine.Kernel`,
`Machine.Shell`, `Machine.Program`) are one such runner, a machine with a shell and other programs;
they are no part of the driver, the driver imports none of them, and no theorem is about them.

Programs are found the way the system finds them, and its errors are the spawn errors. A captured
call goes on until its program has ended and nobody can write to its outputs any more; it is cut off
at the time limit, and what it did to the files before that stays. An attached call ends with its
program and has no limit. Time is counted in nanoseconds.
-/

namespace CompilerDriver.Machine

open Kernel (Process Schedule Stream Task)

def baseDirectories : List String :=
  ["bin", "dev", "dev/fd", "etc", "home", "opt", "root", "tmp", "usr", "usr/bin", "usr/lib",
   "usr/local", "usr/local/bin", "usr/sbin", "var"]

def baseDevices : List String :=
  ["dev/null", "dev/zero", "dev/full", "dev/tty", "dev/stdin", "dev/stdout", "dev/stderr",
   "dev/fd/0", "dev/fd/1", "dev/fd/2"]

def basePrograms : List String :=
  Program.names.flatMap fun name => ["bin/" ++ name, "usr/bin/" ++ name]

def install (tree : FileTree) : FileTree :=
  let placed (path : String) : Place := (Path.ofText path).names
  let withDirectories := baseDirectories.foldl
    (fun tree path => tree.putBelow (placed path) .directory) tree
  let withPrograms := basePrograms.foldl
    (fun tree path => tree.putBelow (placed path) (.file [] true)) withDirectories
  baseDevices.foldl (fun tree path => tree.putBelow (placed path) (.file [] false)) withPrograms

def baseVariables : List (Bytes × Bytes) :=
  [(Bytes.ofText "PATH", Kernel.Search.usualPath), (Bytes.ofText "HOME", Bytes.ofText "/root")]

/-- Whoever makes the call. It collects what is written. -/
def caller : Nat := 4241

def called : Nat := 4242

def outputStream : Nat := 1

def errorStream : Nat := 2

/-- The machine before a call: nothing to read, and both outputs collected, or dropped when the call
is attached. -/
def kernelFor (attached : Bool) (tree : FileTree) : Kernel :=
  let output : Stream := if attached then .device .null else .sink []
  let channels := [(0, 0), (1, outputStream), (2, errorStream)]
  { tree := { tree with start := [] }
    streams := [(0, .device .null), (outputStream, output), (errorStream, output)]
    processes :=
      [(called, { parent := caller, channels := channels, directory := tree.start }),
       (caller, { parent := 0, channels := channels, directory := tree.start })]
    fresh := 3
    next := called + 1 }

def task (bindings : List (Bytes × Bytes)) (command : Command) (kernel : Kernel) :
    Except OsError Task :=
  if command.words.any fun word => word.contains 0 then .error .zeroInCommand
  else
    let tree := kernel.treeOf called
    let list := (bindings.lookup (Bytes.ofText "PATH")).getD Kernel.Search.usualPath
    match Kernel.Search.find tree list command.program with
    | .error error => .error error
    | .ok path =>
        match Program.settle tree Program.settleDepth path command.words with
        | .error error => .error error
        | .ok _ =>
            let call : Program.Call := { words := command.words, environment := bindings }
            .ok (Program.engine.execute path call fun _ => .exit 127)

def ending? (kernel : Kernel) : Option Kernel.Ending :=
  (kernel.process called).ending

def isWritable (kernel : Kernel) (stream : Nat) : Bool :=
  kernel.processes.any fun entry =>
    entry.1 != caller && entry.2.channels.any fun channel => channel.2 == stream

def isOver (attached : Bool) (kernel : Kernel) : Bool :=
  (ending? kernel).isSome &&
    (attached || !(isWritable kernel outputStream || isWritable kernel errorStream))

def stepLimit : Nat := 1000000000000

def signalledStatus : Int := -1

def status (kernel : Kernel) : Int :=
  match ending? kernel with
  | some (.exited status) => (status : Nat)
  | _ => signalledStatus

def completion (kernel : Kernel) : Completion :=
  { status := status kernel
    stdout := kernel.collected outputStream
    stderr := kernel.collected errorStream }

def spawned (command : Command) : Record :=
  { level := .debug, message := "spawned", fields := [("command", .text command.display)] }

def closing (program : String) : Except RunError Completion → List Record
  | .ok completion =>
      [{ level := .debug
         message := "process finished"
         fields :=
           [("program", .text program), ("exit_code", .number completion.status),
            ("stdout_bytes", .number completion.stdout.length),
            ("stderr_bytes", .number completion.stderr.length)] }]
  | .error (.timeout _ after) =>
      [{ level := .warn
         message := "process timed out"
         fields := [("program", .text program), ("after", .text after.exactText)] }]
  | .error _ => []

def run (attached : Bool) (deadline : Option Nat) (schedule : Schedule) : Kernel :=
  (schedule.run deadline (isOver attached) stepLimit).kernel

/-- The machine as a runner, with variables for its programs and a limit for captured calls. -/
def runner (bindings : List (Bytes × Bytes)) (timeout : Option Duration) : Runner :=
  fun call tree =>
    let program := Text.Utf8.lossy call.command.program
    let limit := if call.attached then none else timeout
    let start := kernelFor call.attached tree
    match task bindings call.command start with
    | .error cause =>
        { duration := 0, answer := .error (.spawn program cause), tree := tree }
    | .ok task =>
        let deadline := limit.map Duration.nanoseconds
        let ended := run call.attached deadline { kernel := start, tasks := [(called, task)] }
        let isLate := !isOver call.attached ended
        let answer : Except RunError Completion :=
          match limit, isLate with
          | some after, true => .error (.timeout program after)
          | _, _ => .ok (completion ended)
        { duration := if isLate then deadline.getD ended.clock else ended.clock
          answer := answer
          tree := { ended.tree with start := tree.start }
          opening := if call.attached then [] else [spawned call.command]
          closing := if call.attached then [] else closing program answer }

end CompilerDriver.Machine
