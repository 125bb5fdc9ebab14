import CompilerDriver.Machine.Shell.Builtin.Assignment
import CompilerDriver.Machine.Shell.Lookup

/-!
What names stand for: aliases, what a name would run, and the programs that were looked for before.
-/

namespace CompilerDriver.Machine.Shell.Builtin

open Act
open Kernel (Proc)

def specialNames : List String :=
  Reader.specialNames

def regularNames : List String :=
  ["[", "alias", "bg", "cd", "chdir", "command", "echo", "false", "fg", "getopts", "hash", "jobs",
   "kill", "printf", "pwd", "read", "test", "true", "type", "ulimit", "umask", "unalias", "wait"]

def isSpecial (name : Bytes) : Bool :=
  specialNames.contains (shown name)

def isBuiltin (name : Bytes) : Bool :=
  isSpecial name || regularNames.contains (shown name)

def takesAssignments (name : Bytes) : Bool :=
  ["alias", "export", "local", "readonly"].contains (shown name)

def aliasLine (name value : Bytes) : Bytes :=
  name ++ 0x3D :: quoted value ++ [0x0A]

/-- The name and the value of an alias. The name has at least one byte. -/
def splitAlias (word : Bytes) : Bytes × Option Bytes :=
  let (name, behind) := (word.drop 1).span (· != 0x3D)
  (word.take 1 ++ name, if behind.isEmpty then none else some (behind.drop 1))

def setAlias (name value : Bytes) : Act Unit :=
  modify fun memory =>
    { memory with
      aliases :=
        if (memory.aliases.lookup name).isSome then
          Kernel.alter memory.aliases name fun _ => value
        else memory.aliases ++ [(name, value)] }

def aliasWords : (status : Nat) → List Bytes → Act Nat
  | status, [] => return status
  | status, word :: rest => do
      match splitAlias word with
      | (name, some value) =>
          setAlias name value
          aliasWords status rest
      | (name, none) =>
          match (← get).aliases.lookup name with
          | some value =>
              let _ ← print (aliasLine name value)
              aliasWords status rest
          | none =>
              say 2 (Bytes.ofText "alias: " ++ name ++ Bytes.ofText " not found\n")
              aliasWords 1 rest

def nameAliases : Action := fun words => do
  if words.isEmpty then
    let all := Memory.byDrawer Memory.aliasDrawers (← get).aliases
    print (all.flatMap fun entry => aliasLine entry.1 entry.2)
  else aliasWords 0 words

def removeAliases : (status : Nat) → List Bytes → Act Nat
  | status, [] => return status
  | status, name :: rest => do
      if ((← get).aliases.lookup name).isSome then
        modify fun memory => { memory with aliases := Kernel.dropKey memory.aliases name }
        removeAliases status rest
      else
        say 2 (Bytes.ofText "unalias: " ++ name ++ Bytes.ofText " not found\n")
        removeAliases 1 rest

def unalias : Action := fun words => do
  let (given, names) ← takeOptions "a" words
  if given.isEmpty then removeAliases 0 names
  else
    modify fun memory => { memory with aliases := [] }
    return 0

def programPath (list : Option Bytes) (name : Bytes) : Act (Option (Bytes × Bool)) := do
  if name.contains Path.slash then
    let isThere ← run (Proc.ask fun number kernel => (kernel.look number name).isOk)
    return if isThere then some (name, false) else none
  else
    match list with
    | some list => return (← Lookup.findIn list name).toOption.map fun path => (path, false)
    | none =>
        match (← get).found.lookup name with
        | some path => return some (path, true)
        | none => return (← Lookup.find name).toOption.map fun path => (path, false)

def description (list : Option Bytes) (inWords : Bool) (name : Bytes) : Act (Bytes × Nat) := do
  let memory ← get
  let told (words : String) : Bytes × Nat :=
    ((if inWords then name ++ Bytes.ofText words else name) ++ [0x0A], 0)
  if Reader.reserved.contains (shown name) then return told " is a shell keyword"
  else
    match memory.aliases.lookup name with
    | some value =>
        if inWords then return (name ++ Bytes.ofText " is an alias for " ++ value ++ [0x0A], 0)
        else return (Bytes.ofText "alias " ++ aliasLine name value, 0)
    | none =>
        if list.isNone && (memory.functions.lookup name).isSome then
          return told " is a shell function"
        else if isBuiltin name then
          return told
            (if isSpecial name then " is a special shell builtin" else " is a shell builtin")
        else
          match ← programPath list name with
          | some (path, isKnown) =>
              let front :=
                if !inWords then []
                else name ++ Bytes.ofText (if isKnown then " is a tracked alias for " else " is ")
              return (front ++ path ++ [0x0A], 0)
          | none =>
              return (if inWords then name ++ Bytes.ofText ": not found\n" else [], 127)

def describeAll : (status : Nat) → Bytes → List Bytes → Act Nat
  | status, text, [] => do
      let failed ← print text
      return if status = 0 then failed else status
  | status, text, name :: rest => do
      let (line, worse) ← description none true name
      describeAll (max status worse) (text ++ line) rest

def type : Action := fun words => do
  describeAll 0 [] (← takeOptions "" words).2

def tellCommand : Action := fun words => do
  let (given, names) ← takeOptions "pvV" words
  match names with
  | [] => return 0
  | name :: _ =>
      if !(has 'v' given || has 'V' given) then return 0
      else
        let list := if has 'p' given then some Kernel.Search.usualPath else none
        let (line, status) ← description list (has 'V' given) name
        let failed ← print line
        return if status = 0 then failed else status

def hashWords : (status : Nat) → List Bytes → Act Nat
  | status, [] => return status
  | status, name :: rest => do
      modify fun memory => { memory with found := Kernel.dropKey memory.found name }
      if isBuiltin name || ((← get).functions.lookup name).isSome then hashWords status rest
      else
        match ← Lookup.find name with
        | .ok _ => hashWords status rest
        | .error _ =>
            complain (name ++ Bytes.ofText ": not found")
            hashWords 1 rest

def hash : Action := fun words => do
  let (given, names) ← takeOptions "r" words
  if !given.isEmpty then
    modify fun memory => { memory with found := [] }
    return 0
  else if names.isEmpty then
    let all := Memory.byDrawer Memory.commandDrawers (← get).found
    print (all.flatMap fun entry => entry.2 ++ [0x0A])
  else hashWords 0 names

end CompilerDriver.Machine.Shell.Builtin
