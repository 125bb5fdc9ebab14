import CompilerDriver.Machine.Shell.Interpreter

/-!
The shell as a program. Its words say with which options it runs, and where its script is: in a
word, in a file, or in what it reads.
-/

namespace CompilerDriver.Machine.Shell.Start

open Act
open Kernel (Proc)

def initialBindings : List (Bytes × Binding) :=
  let text (name value : String) : Bytes × Binding :=
    (Bytes.ofText name, { value := some (Bytes.ofText value) })
  [text "IFS" " \t\n", (Memory.searchPath, { value := some Kernel.Search.usualPath }),
   text "PS1" "# ", text "PS2" "> ", text "PS4" "+ ", text "OPTIND" "1"]

def ownNames : List Bytes :=
  [Bytes.ofText "IFS", Memory.optionIndex]

def memoryOf (call : Program.Call) (own parent : Nat) (here : Bytes) (ignored : List Nat) :
    Memory :=
  let start : Memory :=
    { zero := call.name, bindings := initialBindings, unheard := ignored, own := own, here := here }
  let given := call.environment.filter fun entry =>
    isName entry.1 && !ownNames.contains entry.1
  let filled := given.foldl
    (fun memory entry => (memory.assign entry.1 entry.2).markExported entry.1) start
  ((filled.assign (Bytes.ofText "PPID") (Expansion.decimal parent)).assign
    Builtin.hereName here).markExported Builtin.hereName

/-- What the words ask for besides options that can be set. -/
structure Demand where
  isCommand : Bool := false
  words : List Bytes := []

def takeLetters (isOn : Bool) : Bytes → Demand → Act Demand
  | [], demand => return demand
  | letter :: more, demand => do
      if letter = 0x63 then takeLetters isOn more { demand with isCommand := true }
      else if letter = 0x6C then takeLetters isOn more demand
      else if letter = 0x6F then
        takeLetters isOn more { demand with words := ← Builtin.setNamed isOn demand.words }
      else
        Builtin.setLetter isOn letter
        takeLetters isOn more demand

/-- Options come first. A minus sign or two end them. -/
def takeOptions : (steps : Nat) → Demand → Act Demand
  | 0, demand => return demand
  | steps + 1, demand => do
      match demand.words with
      | [0x2D] :: rest | [0x2D, 0x2D] :: rest => return { demand with words := rest }
      | (0x2D :: letters) :: rest => do
          takeOptions steps (← takeLetters true letters { demand with words := rest })
      | (0x2B :: letters) :: rest => do
          takeOptions steps (← takeLetters false letters { demand with words := rest })
      | _ => return demand

def setZero (name : Bytes) : Act Unit :=
  modify fun memory => { memory with zero := name }

def runScript (arguments : List Bytes) (script : Act Nat) : Act Unit := do
  Builtin.setArguments arguments
  setStatus (← script)

def runInput (engine : Engine) (arguments : List Bytes) : Act Unit := do
  let (script, _) ← run (Proc.readAll 0)
  runScript arguments (Interpreter.runRead engine script)

/-- Runs the script of a file. A directory holds none. -/
def runFile (engine : Engine) (file : Bytes) (arguments : List Bytes) : Act Unit := do
  match ← run (Proc.ask fun number kernel => kernel.readFile number file) with
  | .ok script =>
      setZero file
      runScript arguments (Interpreter.runRead engine script)
  | .error .isDirectory => setZero file
  | .error error => fail (Redirection.openFailure .input file error)

def main (engine : Engine) (words : List Bytes) : Act Unit := do
  let demand ← takeOptions (words.length + 1) { words := words }
  if (← get).has "i" then complainText "can't access tty; job control turned off"
  match demand.isCommand, demand.words with
  | true, [] => failText "-c requires an argument"
  | true, [script] => runScript [] (Interpreter.runText engine false script)
  | true, script :: name :: arguments => do
      setZero name
      runScript arguments (Interpreter.runText engine false script)
  | false, [] => runInput engine []
  | false, file :: arguments => do
      if (← get).has "s" then runInput engine (file :: arguments)
      else runFile engine file arguments

def program (engine : Engine) : Program := fun call => do
  let (own, process, here) ← Proc.ask fun number kernel =>
    let process := kernel.process number
    (number, process, Kernel.pathOf process.directory)
  let memory := memoryOf call own process.parent here process.ignored
  fun rest =>
    Interpreter.toEnd engine (main engine call.arguments) memory fun _ last =>
      rest (last.status % 256)

end CompilerDriver.Machine.Shell.Start
