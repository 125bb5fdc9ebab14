import CompilerDriver.Machine.Kernel.Task
import CompilerDriver.Machine.Program.Quoting

/-!
What the programs of a machine share. A program is started with its words, the first of which is its
own name, and with variables, and comes to a status. Its complaints begin with its name.
-/

namespace CompilerDriver.Machine

open Kernel (Proc)

structure Program.Call where
  words : List Bytes
  environment : List (Bytes × Bytes) := []
  deriving Inhabited

abbrev Program := Program.Call → Proc Nat

namespace Program

def Call.name (call : Call) : Bytes :=
  call.words.headD []

def Call.arguments (call : Call) : List Bytes :=
  call.words.drop 1

/-- Puts a program in the place of another one, which goes on only if that is impossible. -/
abbrev Execute := (path : Bytes) → Call → Proc OsError

def reason : OsError → String
  | .numbered number => OsError.name number
  | .described text => text

def shown (word : Bytes) : String :=
  Text.Utf8.lossy word

def warn (bytes : Bytes) : Proc Unit := do
  let _ ← Proc.write 2 bytes

def complain (call : Call) (message : Bytes) : Proc Unit :=
  warn (call.name ++ Bytes.ofText ": " ++ message ++ [0x0A])

def complainText (call : Call) (message : String) : Proc Unit :=
  complain call (Bytes.ofText message)

def complainOf (call : Call) (what : Bytes) (error : OsError) : Proc Unit :=
  complain call (what ++ Bytes.ofText (": " ++ reason error))

def refuse (call : Call) (status : Nat) (message : Bytes) : Proc Nat := do
  complain call message
  warn (Bytes.ofText "Try '" ++ call.name ++ Bytes.ofText " --help' for more information.\n")
  return status

def refuseText (call : Call) (status : Nat) (message : String) : Proc Nat :=
  refuse call status (Bytes.ofText message)

/-- Writes to standard output at the end of a program. That nobody takes it is complained about, and
has a status of its own. -/
def printOr (failed : Nat) (call : Call) (bytes : Bytes) (status : Nat) : Proc Nat := do
  if bytes.isEmpty then return status
  match ← Proc.write 1 bytes with
  | .ok _ => return status
  | .error error =>
      complain call (Bytes.ofText ("write error: " ++ reason error))
      return failed

def printAll : Call → Bytes → (status : Nat) → Proc Nat :=
  printOr 1

def worse (one other : Nat) : Nat :=
  max one other

/-- Treats words one by one; a failure does not stop the rest. -/
def forEach (action : Bytes → Proc Nat) : List Bytes → Proc Nat
  | [] => return 0
  | word :: rest => do
      let status ← action word
      return worse status (← forEach action rest)

end Program

end CompilerDriver.Machine
