import CompilerDriver.FileTree
import CompilerDriver.Machine.Kernel.Signal

/-!
What a machine keeps while its programs run: processes, the channels they have open, the pipes
between them, and the files. A channel is a small number of one process, and stands for an open
stream that several channels and processes may share. A stream that nobody stands for any more is
closed. What the processes do next is kept elsewhere.
-/

namespace CompilerDriver.Machine.Kernel

/-- Files that are no files: they take everything, or give nothing, or give zeros without end. -/
inductive Device where
  | null
  | zero
  | full
  deriving Repr, DecidableEq, Inhabited

structure Access where
  reads : Bool := false
  writes : Bool := false
  appends : Bool := false
  deriving Repr, DecidableEq, Inhabited

/-- What stands behind a channel. A sink keeps what was written, the latest first. -/
inductive Stream where
  | device (device : Device)
  | sink (chunks : List Bytes)
  | file (place : Place) (offset : Nat) (access : Access)
  | adrift (number offset : Nat) (access : Access)
  | directory (place : Place)
  | reading (pipe : Nat)
  | writing (pipe : Nat)
  deriving Repr, Inhabited

/-- What was written into a pipe and not read yet, in two parts: the first in order, the second the
latest first. -/
structure Pipe where
  front : List Bytes := []
  back : List Bytes := []
  size : Nat := 0
  deriving Repr, Inhabited

namespace Pipe

def capacity : Nat := 65536

def wholeLimit : Nat := 4096

def put (pipe : Pipe) (bytes : Bytes) : Pipe :=
  { pipe with back := bytes :: pipe.back, size := pipe.size + bytes.length }

def take (pipe : Pipe) (count : Nat) : Bytes × Pipe :=
  let chunks := if pipe.front.isEmpty then pipe.back.reverse else pipe.front
  let back := if pipe.front.isEmpty then [] else pipe.back
  match chunks with
  | [] => ([], pipe)
  | chunk :: rest =>
      let taken := chunk.take count
      let left := chunk.drop count
      (taken,
        { front := if left.isEmpty then rest else left :: rest
          back := back
          size := pipe.size - taken.length })

end Pipe

inductive Ending where
  | exited (status : Nat)
  | signalled (signal : Nat)
  deriving Repr, DecidableEq, Inhabited

structure Process where
  parent : Nat
  channels : List (Nat × Nat) := []
  directory : Place := []
  /-- The permissions that new files do not get. -/
  mask : Nat := 18
  ignored : List Nat := []
  caught : List Nat := []
  /-- The caught signals that have come in and wait to be looked at. -/
  pending : List Nat := []
  /-- When the process can go on. -/
  ready : Nat := 0
  isStopped : Bool := false
  /-- The signal that the process will have ended by when it goes on. -/
  doom : Option Nat := none
  ending : Option Ending := none
  /-- Limits that were set, each with its lower and its upper bound. -/
  limits : List (Char × Option Nat × Option Nat) := []
  deriving Repr, Inhabited

end Kernel

structure Kernel where
  tree : FileTree
  /-- When files were last written. -/
  stamps : List (Place × Nat) := []
  /-- What removed files hold that are still open. -/
  adrift : List (Nat × Bytes) := []
  streams : List (Nat × Kernel.Stream) := []
  pipes : List (Nat × Kernel.Pipe) := []
  processes : List (Nat × Kernel.Process) := []
  clock : Nat := 0
  /-- The number for the next stream, pipe or removed file. -/
  fresh : Nat := 0
  /-- The number for the next process. -/
  next : Nat := 4242
  deriving Inhabited

namespace Kernel

def setKey {key value : Type} [BEq key] (entries : List (key × value)) (name : key)
    (content : value) : List (key × value) :=
  (name, content) :: entries.filter fun entry => !(entry.1 == name)

def dropKey {key value : Type} [BEq key] (entries : List (key × value)) (name : key) :
    List (key × value) :=
  entries.filter fun entry => !(entry.1 == name)

def alter {key value : Type} [BEq key] (entries : List (key × value)) (name : key)
    (change : value → value) : List (key × value) :=
  entries.map fun entry => if entry.1 == name then (entry.1, change entry.2) else entry

def process? (kernel : Kernel) (number : Nat) : Option Process :=
  kernel.processes.lookup number

def process (kernel : Kernel) (number : Nat) : Process :=
  (kernel.process? number).getD { parent := 0 }

def modify (kernel : Kernel) (number : Nat) (change : Process → Process) : Kernel :=
  { kernel with processes := alter kernel.processes number change }

def hasEnded (process : Process) : Bool :=
  process.ending.isSome

def delay (kernel : Kernel) (number span : Nat) : Kernel :=
  kernel.modify number fun process => { process with ready := kernel.clock + span }

def treeOf (kernel : Kernel) (number : Nat) : FileTree :=
  { kernel.tree with start := (kernel.process number).directory }

def isHeld (kernel : Kernel) (stream : Nat) : Bool :=
  kernel.processes.any fun entry => entry.2.channels.any fun channel => channel.2 == stream

def release (kernel : Kernel) (stream : Nat) : Kernel :=
  if kernel.isHeld stream then kernel
  else
    let left := { kernel with streams := dropKey kernel.streams stream }
    match kernel.streams.lookup stream with
    | some (.adrift number _ _) =>
        if left.streams.any fun entry =>
            match entry.2 with
            | .adrift other _ _ => other == number
            | _ => false
        then left
        else { left with adrift := dropKey left.adrift number }
    | _ => left

def hasReader (kernel : Kernel) (pipe : Nat) : Bool :=
  kernel.streams.any fun entry =>
    match entry.2 with
    | .reading other => other == pipe
    | _ => false

def hasWriter (kernel : Kernel) (pipe : Nat) : Bool :=
  kernel.streams.any fun entry =>
    match entry.2 with
    | .writing other => other == pipe
    | _ => false

/-- Lets a process that catches a signal find it. One that has come in already comes in once. -/
def notify (kernel : Kernel) (number signal : Nat) : Kernel :=
  let process := kernel.process number
  if process.caught.contains signal && !process.pending.contains signal then
    kernel.modify number fun process => { process with pending := process.pending ++ [signal] }
  else kernel

/-- Ends a process. Its channels are closed, what its own processes leave behind is cleared away,
and the process itself stays to be asked about while its parent lives. -/
def conclude (kernel : Kernel) (number : Nat) (ending : Ending) : Kernel :=
  let gone := kernel.process number
  let isAlive (other : Nat) : Bool :=
    match kernel.process? other with
    | some process => !hasEnded process
    | none => false
  let marked := kernel.modify number fun process =>
    { process with ending := some ending, channels := [], pending := [] }
  let orphaned :=
    { marked with
      processes :=
        (marked.processes.filter fun entry =>
            !(entry.2.parent == number && hasEnded entry.2)).map fun entry =>
          if entry.2.parent == number then (entry.1, { entry.2 with parent := 1 }) else entry }
  let kept :=
    if isAlive gone.parent || gone.parent == 0 then orphaned
    else { orphaned with processes := dropKey orphaned.processes number }
  let closed : Kernel :=
    gone.channels.foldl (fun kernel channel => kernel.release channel.2) kept
  closed.notify gone.parent Signal.child

/-- How long it takes until a process has ended that another one has sent a signal to. -/
def doomSpan : Nat := 100000

def condemn (kernel : Kernel) (sender number signal : Nat) : Kernel :=
  let span := if sender = number then 0 else doomSpan
  kernel.modify number fun process =>
    if process.doom.isSome then process
    else { process with doom := some signal, ready := kernel.clock + span }

def send (kernel : Kernel) (sender number signal : Nat) : Kernel :=
  let process := kernel.process number
  if hasEnded process || signal = 0 then kernel
  else
    let woken :=
      if signal = Signal.resume || signal = Signal.kill then
        kernel.modify number fun process => { process with isStopped := false }
      else kernel
    if !Signal.isCertain signal && process.ignored.contains signal then woken
    else if !Signal.isCertain signal && process.caught.contains signal then
      woken.notify number signal
    else
      match Signal.effect signal with
      | .none | .resumes => woken
      | .ends => woken.condemn sender number signal
      | .suspends => woken.modify number fun process => { process with isStopped := true }

def copyProcess (kernel : Kernel) (parent : Nat) : Nat × Kernel :=
  let child : Process :=
    { kernel.process parent with
      parent := parent, pending := [], isStopped := false, doom := none }
  (kernel.next,
    { kernel with
      processes := (kernel.next, child) :: kernel.processes
      next := kernel.next + 1 })

end CompilerDriver.Machine.Kernel
