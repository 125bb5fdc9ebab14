import CompilerDriver.Machine.Shell.Builtin.Control
import CompilerDriver.Machine.Shell.Builtin.Jobs
import CompilerDriver.Machine.Shell.Builtin.Naming
import CompilerDriver.Machine.Shell.Builtin.Output
import CompilerDriver.Machine.Shell.Builtin.Place

/-!
The commands of the shell itself by their names, apart from those that run other commands.
-/

namespace CompilerDriver.Machine.Shell.Builtin

open Act

def succeed : Action := fun _ => return 0

def ofName? (name : Bytes) : Option Action :=
  match shown name with
  | ":" | "true" => some succeed
  | "false" => some fun _ => return 1
  | "[" => some bracket
  | "alias" => some nameAliases
  | "bg" | "fg" => some moveJob
  | "break" => some (levels Escape.breaking)
  | "cd" | "chdir" => some changeDirectory
  | "command" => some tellCommand
  | "continue" => some (levels Escape.continuing)
  | "echo" => some echo
  | "exit" => some exit
  | "export" => some exporting
  | "getopts" => some getopts
  | "hash" => some hash
  | "jobs" => some listJobs
  | "kill" => some kill
  | "local" => some covering
  | "printf" => some printf
  | "pwd" => some workingDirectory
  | "read" => some read
  | "readonly" => some fixing
  | "return" => some leave
  | "set" => some set
  | "shift" => some shift
  | "test" => some test
  | "times" => some times
  | "trap" => some trap
  | "type" => some type
  | "ulimit" => some limit
  | "umask" => some mask
  | "unalias" => some unalias
  | "unset" => some removing
  | "wait" => some wait
  | _ => none

end CompilerDriver.Machine.Shell.Builtin
