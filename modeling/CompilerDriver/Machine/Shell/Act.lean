import CompilerDriver.Machine.Shell.Memory

/-!
Parts of a running shell. Each looks at what the shell remembers, may change it and may act on the
machine, and comes to a value or leaves the usual order. What comes after is handed in, so that a
shell of any depth is one task of the machine.
-/

namespace CompilerDriver.Machine.Shell

open Kernel (Task Proc)

def Act (α : Type) := Memory → (Except Escape α → Memory → Task) → Task

namespace Act

instance : Monad Act where
  pure value := fun memory rest => rest (.ok value) memory
  bind first next := fun memory rest =>
    first memory fun result memory =>
      match result with
      | .ok value => next value memory rest
      | .error escape => rest (.error escape) memory

def get : Act Memory := fun memory rest => rest (.ok memory) memory

def view {α : Type} (look : Memory → α) : Act α := fun memory rest =>
  rest (.ok (look memory)) memory

def modify (change : Memory → Memory) : Act Unit := fun memory rest =>
  rest (.ok ()) (change memory)

def escape {α : Type} (why : Escape) : Act α := fun memory rest => rest (.error why) memory

def settle {α : Type} (part : Act α) : Act (Except Escape α) := fun memory rest =>
  part memory fun result memory => rest (.ok result) memory

def resume {α : Type} : Except Escape α → Act α
  | .ok value => pure value
  | .error why => escape why

def ensuring {α : Type} (part : Act α) (last : Act Unit) : Act α := do
  let result ← settle part
  last
  resume result

def run {α : Type} (program : Proc α) : Act α := fun memory rest =>
  program fun value => rest (.ok value) memory

def forEach {α : Type} (action : α → Act Unit) : List α → Act Unit
  | [] => pure ()
  | first :: rest => do
      action first
      forEach action rest

def collect {α β : Type} (action : α → Act β) : List α → Act (List β)
  | [] => pure []
  | first :: rest => do
      let value ← action first
      return value :: (← collect action rest)

def setStatus (status : Nat) : Act Unit :=
  modify fun memory => { memory with status := status }

def say (channel : Nat) (bytes : Bytes) : Act Unit := do
  let _ ← run (Proc.write channel bytes)

/-- A complaint on the error channel, with the shell's name, the line and the command. -/
def complain (message : Bytes) : Act Unit := do
  let memory ← get
  let owner :=
    match memory.command with
    | some name => name ++ Bytes.ofText ": "
    | none => []
  say 2
    (memory.zero ++ Bytes.ofText (": " ++ toString memory.line ++ ": ") ++ owner ++ message ++
      [0x0A])

def complainText (message : String) : Act Unit :=
  complain (Bytes.ofText message)

def fail {α : Type} (message : Bytes) : Act α := do
  complain message
  setStatus 2
  escape .failing

def failText {α : Type} (message : String) : Act α :=
  fail (Bytes.ofText message)

def checkAssigned (name value : Bytes) : Act Unit :=
  if name = Memory.optionIndex && (Arithmetic.count? value).isNone then
    fail (Bytes.ofText "Illegal number: " ++ value)
  else pure ()

def assign (name value : Bytes) : Act Unit := do
  if (← get).isConstant name then fail (name ++ Bytes.ofText ": is read only")
  else
    modify fun memory => memory.assign name value
    checkAssigned name value

end Act

end CompilerDriver.Machine.Shell
