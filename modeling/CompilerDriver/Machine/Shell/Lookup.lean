import CompilerDriver.Machine.Kernel.Search
import CompilerDriver.Machine.Shell.Job

/-!
Where the program is that a name of the shell stands for. What was found is kept.
-/

namespace CompilerDriver.Machine.Shell.Lookup

open Act
open Kernel (Proc)

def searchList (memory : Memory) : Bytes :=
  (memory.value? Memory.searchPath).getD []

/-- The path that a name without slashes stands for. An empty name leads to the directories
themselves. -/
def findIn (list name : Bytes) : Act (Except OsError Bytes) :=
  run <| Proc.ask fun number kernel =>
    let tree := kernel.treeOf number
    if name.isEmpty then Kernel.Search.search tree name .noEntry (Path.splitAt 0x3A list)
    else Kernel.Search.find tree list name

/-- The path that a name stands for, which is kept if it had to be searched for. A name with slashes
is a path already. -/
def find (name : Bytes) : Act (Except OsError Bytes) := do
  if name.contains Path.slash then return .ok name
  else
    let memory ← get
    match ← findIn (searchList memory) name with
    | .ok path =>
        modify fun memory =>
          { memory with
            found :=
              if (memory.found.lookup name).isSome then
                Kernel.alter memory.found name fun _ => path
              else memory.found ++ [(name, path)] }
        return .ok path
    | .error error => return .error error

end CompilerDriver.Machine.Shell.Lookup
