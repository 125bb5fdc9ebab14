import CompilerDriver.Machine.Program.Calculation
import CompilerDriver.Machine.Program.Comparison
import CompilerDriver.Machine.Program.Condition
import CompilerDriver.Machine.Program.Count
import CompilerDriver.Machine.Program.Dump
import CompilerDriver.Machine.Program.Edit.Run
import CompilerDriver.Machine.Program.Identity
import CompilerDriver.Machine.Program.Matching
import CompilerDriver.Machine.Program.Order
import CompilerDriver.Machine.Program.Replacement
import CompilerDriver.Machine.Program.Sequence
import CompilerDriver.Machine.Program.Transfer
import CompilerDriver.Machine.Program.Walk
import CompilerDriver.Machine.Shell.Start

/-!
The programs of a machine by their names, and the interpreter of the shell tied together with them:
the shell starts programs, and the shell is one of them.
-/

namespace CompilerDriver.Machine.Program

open Shell (Engine)

def plain : List (String × Program) :=
  [("true", succeed), ("false", failing), ("echo", echo), ("printf", printf), ("yes", yes),
   ("basename", baseName), ("dirname", directoryName), ("test", Condition.test),
   ("[", Condition.bracket),
   ("pwd", workingDirectory), ("sleep", sleep), ("printenv", printVariables),
   ("cat", concatenate), ("tac", backwards), ("rev", mirrored), ("nl", numbered), ("tee", tee),
   ("paste", paste), ("head", head), ("tail", tail), ("cut", cut), ("wc", Count.program),
   ("tr", Replacement.program), ("sort", Order.sort), ("uniq", Order.unique),
   ("seq", Sequence.program), ("expr", Calculation.program), ("grep", Matching.program),
   ("sed", Edit.program), ("od", Dump.program), ("cmp", compareBytes), ("diff", compareLines),
   ("base64", base64), ("tty", noTerminal), ("whoami", showUser), ("id", showIdentity),
   ("uname", showSystem), ("which", locate), ("realpath", realPath), ("readlink", readLink),
   ("ls", listFiles), ("mkdir", makeDirectories), ("rmdir", removeDirectories),
   ("rm", removeFiles), ("touch", touch), ("cp", copy), ("mv", move), ("chmod", changeMode)]

def shellNames : List String :=
  ["sh", "dash"]

def starting (engine : Engine) : List (String × Program) :=
  [("env", withVariables engine.execute), ("xargs", Gathering.program engine.execute),
   ("timeout", Limit.program engine.execute), ("find", Walk.program engine.execute)] ++
    shellNames.map fun name => (name, Shell.Start.program engine)

def native (engine : Engine) (name : Name) : Option Program :=
  let text := shown name
  (plain.lookup text).or ((starting engine).lookup text)

def idle : Engine :=
  { run := fun _ _ _ => Shell.Act.run Kernel.Proc.hang
    execute := fun _ _ => Kernel.Proc.hang }

def layer (inner : Engine) : Engine :=
  { run := Shell.Interpreter.rule inner
    execute := execute (native inner) }

def layers : (depth : Nat) → Engine → Engine
  | 0, engine => engine
  | depth + 1, engine => layers depth (layer engine)

def layerLimit : Nat := 100000

def engine : Engine :=
  layers layerLimit idle

def names : List String :=
  plain.map Prod.fst ++ (starting idle).map Prod.fst

end CompilerDriver.Machine.Program
