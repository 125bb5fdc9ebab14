import CompilerDriver.World

/-!
A runner that follows a script. The entry for a call is the one at its position; calls past the end
get the last entry, and an empty script answers every call with an empty success. Scripted calls
never touch the tree.
-/

namespace CompilerDriver

structure Script.Entry where
  completion : Completion := {}
  /-- The call's own words, joined by bars, take the place of what it prints. -/
  echoes : Bool := false
  failure : Option RunError := none
  delay : Nat := 0
  deriving Repr, Inhabited

abbrev Script := List Script.Entry

namespace Script

def entry (script : Script) (index : Nat) : Entry :=
  (script[index]?.or script.getLast?).getD {}

def Entry.answer (entry : Entry) (command : Command) : Except RunError Completion :=
  match entry.failure with
  | some error => .error error
  | none =>
      if entry.echoes then
        .ok
          { entry.completion with
            stdout := Text.Utf8.encode (String.intercalate "|" command.argv) }
      else .ok entry.completion

def runner (script : Script) : Runner := fun call tree =>
  let entry := script.entry call.index
  { duration := entry.delay, answer := entry.answer call.command, tree := tree }

end CompilerDriver.Script
