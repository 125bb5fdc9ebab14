import CompilerDriver.Invocation
import CompilerDriver.Machine

/-!
The command line. The words and the environment are read, the invocation is carried out with the
machine as its runner, which holds nothing but its own programs, and what it prints is written out.
-/

namespace CompilerDriver.Main

def variableNames : List String :=
  Invocation.filterVariable :: Flag.all.filterMap Flag.environmentName?

def readEnvironment : List String → IO Options.Environment
  | [] => pure []
  | name :: rest => do
      let others ← readEnvironment rest
      match ← IO.getEnv name with
      | some value => pure ((name, Text.Utf8.encode value) :: others)
      | none => pure others

/-- A tree in which a directory stands, with the programs of the machine. -/
def treeAt (directory : Path) : FileTree :=
  let place := directory.normal.names
  (Machine.install { start := place }).putBelow place .directory

def site (directory : Path) (environment : Options.Environment) : Site :=
  { directory := .ok directory, defaultRoot := directory, environment := environment }

def writeAll (stream : IO.FS.Stream) (bytes : Bytes) : IO Unit := do
  stream.write (ByteArray.mk bytes.toArray)
  stream.flush

end CompilerDriver.Main

open CompilerDriver in
def main (arguments : List String) : IO UInt32 := do
  let environment ← Main.readEnvironment Main.variableNames
  let directory := Path.ofText (← IO.currentDir).toString
  let (ending, _) := Invocation.perform (Main.site directory environment)
    (Machine.runner Machine.baseVariables) (arguments.map Text.Utf8.encode)
    { tree := Main.treeAt directory }
  match ending with
  | .finished _ stdout stderr =>
      Main.writeAll (← IO.getStdout) stdout
      Main.writeAll (← IO.getStderr) stderr
  | .usage _ => pure ()
  return UInt32.ofNat ending.status
