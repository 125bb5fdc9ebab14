import CompilerDriver.Machine.Kernel.Task
import CompilerDriver.Machine.Shell.Arithmetic
import CompilerDriver.Machine.Shell.Reader

/-!
What a shell remembers: its variables, functions, aliases and options, the commands it has started,
and where in its script it stands. Everything that other processes could see is kept by the machine.
-/

namespace CompilerDriver.Machine.Shell

open Kernel (dropKey)

structure Binding where
  value : Option Bytes := none
  isExported : Bool := false
  isConstant : Bool := false
  deriving Repr, DecidableEq, Inhabited

/-- Commands in the background: the processes of a pipeline, and how they ended if it is known. The
number of a job that has ended and was waited for may be given to another one. -/
structure Job where
  number : Nat
  processes : List Nat
  endings : List (Nat × Kernel.Ending) := []
  isWaited : Bool := false
  deriving Repr, Inhabited

/-- Where the reading of options from a list of words stands: the next word, and how many letters of
the word before it are read. -/
structure OptionPlace where
  index : Nat := 1
  letters : Nat := 0
  deriving Repr, DecidableEq, Inhabited

/-- What a call has to give back at its end: the variables it covered, the latest first, and the
options if it covered them. -/
structure Frame where
  bindings : List (Bytes × Binding) := []
  options : Option (List String) := none
  deriving Repr, Inhabited

/-- Why control leaves its usual order. The status is kept with everything else. -/
inductive Escape where
  | breaking (levels : Nat)
  | continuing (levels : Nat)
  /-- Out of a function or a file; of its own accord when no status was asked for. -/
  | returning (isPlain : Bool)
  /-- A complaint that ends whatever does not guard against it. -/
  | failing
  /-- The end of the shell, which was asked for or comes of a failure. -/
  | ending (isAsked : Bool)
  deriving Repr, DecidableEq, Inhabited

structure Memory where
  zero : Bytes := []
  arguments : List Bytes := []
  bindings : List (Bytes × Binding) := []
  functions : List (Bytes × Form) := []
  aliases : List (Bytes × Bytes) := []
  /-- The letters of the options that are set, and names of those that have none. -/
  options : List String := []
  status : Nat := 0
  /-- The status of the last substitution. -/
  printed : Nat := 0
  line : Nat := 0
  /-- The command in whose name complaints are made. -/
  command : Option Bytes := none
  loops : Nat := 0
  depth : Nat := 0
  /-- What calls have to give back, the innermost call first. -/
  frames : List Frame := []
  traps : List (Nat × Bytes) := []
  /-- The signals that were ignored when the shell began. -/
  unheard : List Nat := []
  jobs : List Job := []
  latest : Option Nat := none
  /-- The number of the shell, which all inner shells share. -/
  own : Nat := 0
  place : OptionPlace := {}
  /-- Where the programs are that were looked for before. -/
  found : List (Bytes × Bytes) := []
  /-- The status that a trap has to bring back. -/
  interrupted : Option Nat := none
  /-- Where the shell takes itself to be. -/
  here : Bytes := []
  /-- Whether a command is being shown, so that none is shown in between. -/
  isTracing : Bool := false
  /-- Whether the end of the script has been seen and not been passed yet. -/
  isAtEnd : Bool := false
  deriving Inhabited

namespace Memory

def binding? (memory : Memory) (name : Bytes) : Option Binding :=
  memory.bindings.lookup name

def value? (memory : Memory) (name : Bytes) : Option Bytes :=
  (memory.binding? name).bind Binding.value

def has (memory : Memory) (option : String) : Bool :=
  memory.options.contains option

def isConstant (memory : Memory) (name : Bytes) : Bool :=
  (memory.binding? name).any Binding.isConstant

def optionIndex : Bytes := Bytes.ofText "OPTIND"

def optionWord : Bytes := Bytes.ofText "OPTARG"

def searchPath : Bytes := Bytes.ofText "PATH"

def afterAssignment (memory : Memory) (name : Bytes) : Memory :=
  if name = optionIndex then
    let index := ((memory.value? name).bind Arithmetic.count?).getD 1
    { memory with place := { index := max index 1, letters := 0 } }
  else if name = searchPath then { memory with found := [] }
  else memory

def setBinding (memory : Memory) (name : Bytes) (binding : Binding) : Memory :=
  { memory with
    bindings :=
      if (memory.binding? name).isSome then
        Kernel.alter memory.bindings name fun _ => binding
      else memory.bindings ++ [(name, binding)] }

/-- Gives a variable a value; whether it is exported stays, unless all are. -/
def assign (memory : Memory) (name value : Bytes) : Memory :=
  let old := (memory.binding? name).getD {}
  let next := memory.setBinding name
    { old with value := some value, isExported := old.isExported || memory.has "a" }
  next.afterAssignment name

def unassign (memory : Memory) (name : Bytes) : Memory :=
  { memory with bindings := dropKey memory.bindings name }.afterAssignment name

def markExported (memory : Memory) (name : Bytes) : Memory :=
  memory.setBinding name { (memory.binding? name).getD {} with isExported := true }

def markConstant (memory : Memory) (name : Bytes) : Memory :=
  memory.setBinding name { (memory.binding? name).getD {} with isConstant := true }

def drawer (size : Nat) (name : Bytes) : Nat :=
  (name.foldl (fun sum byte => sum + byte.toNat) (16 * (name.headD 0).toNat)) % size

def byDrawer {content : Type} (size : Nat) (entries : List (Bytes × content)) :
    List (Bytes × content) :=
  entries.mergeSort fun one other => drawer size one.1 ≤ drawer size other.1

def variableDrawers : Nat := 39

def aliasDrawers : Nat := 39

def commandDrawers : Nat := 31

def environment (memory : Memory) : List (Bytes × Bytes) :=
  (byDrawer variableDrawers memory.bindings).filterMap fun entry =>
    if entry.2.isExported then entry.2.value.map fun value => (entry.1, value) else none

def sorted (memory : Memory) : List (Bytes × Binding) :=
  memory.bindings.mergeSort fun one other => FileTree.bytesLe one.1 other.1

def keep (memory : Memory) (name : Bytes) : Memory :=
  match memory.frames with
  | [] => memory
  | frame :: rest =>
      let saved := (name, (memory.binding? name).getD {})
      { memory with frames := { frame with bindings := saved :: frame.bindings } :: rest }

def keepOptions (memory : Memory) : Memory :=
  match memory.frames with
  | [] => memory
  | frame :: rest =>
      { memory with
        frames := { frame with options := frame.options.or (some memory.options) } :: rest }

def giveBack (memory : Memory) (saved : Bytes × Binding) : Memory :=
  let before :=
    if saved.2 = {} then { memory with bindings := dropKey memory.bindings saved.1 }
    else memory.setBinding saved.1 saved.2
  before.afterAssignment saved.1

def openFrame (memory : Memory) : Memory :=
  { memory with frames := {} :: memory.frames }

def closeFrame (memory : Memory) : Memory :=
  match memory.frames with
  | [] => memory
  | frame :: rest =>
      let restored := frame.bindings.foldl giveBack memory
      { restored with frames := rest, options := frame.options.getD restored.options }

end Memory

end CompilerDriver.Machine.Shell
