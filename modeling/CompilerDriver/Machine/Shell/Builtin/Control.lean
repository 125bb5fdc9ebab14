import CompilerDriver.Machine.Shell.Builtin.Support

/-!
The commands that leave the usual order: loops, functions, and the shell itself.
-/

namespace CompilerDriver.Machine.Shell.Builtin

open Act

def exit : Action := fun words => do
  match words with
  | [] => escape (.ending true)
  | word :: _ =>
      let status ← count word
      modify fun memory => { memory with interrupted := some status }
      escape (.ending true)

def leave : Action := fun words => do
  match words with
  | [] => escape (.returning true)
  | word :: _ =>
      setStatus (← count word)
      escape (.returning false)

/-- Leaves loops from inside: no more of them than there are, and nothing happens outside of
loops. -/
def levels (why : Nat → Escape) : Action := fun words => do
  let asked ←
    match words with
    | [] => pure 1
    | word :: _ => do
        let number ← count word
        if number = 0 then illegalNumber word else pure number
  let loops := (← get).loops
  if loops = 0 then return 0
  else
    setStatus 0
    escape (why (min asked loops))

end CompilerDriver.Machine.Shell.Builtin
