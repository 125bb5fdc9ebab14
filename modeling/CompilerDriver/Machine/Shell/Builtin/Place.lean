import CompilerDriver.Machine.Kernel.Mode
import CompilerDriver.Machine.Shell.Builtin.Support
import CompilerDriver.Machine.Shell.Format

/-!
The commands for what a process is given by the machine: its directory, the permissions that it does
not give to new files, its limits, and the time it has used.
-/

namespace CompilerDriver.Machine.Shell.Builtin

open Act
open Kernel (Proc)

def beforeName : Bytes := Bytes.ofText "OLDPWD"

def hereName : Bytes := Bytes.ofText "PWD"

def trueHere : Act Bytes :=
  run (Proc.ask fun number kernel => Kernel.pathOf (kernel.process number).directory)

def straightened (start path : Bytes) : Bytes :=
  let whole :=
    if path.head? = some Path.slash then path
    else if start.getLast? = some Path.slash then start ++ path
    else start ++ Path.slash :: path
  let place := (Path.splitAt Path.slash whole).foldl
    (fun place segment =>
      if segment.isEmpty || segment == Path.here then place
      else if segment == Path.up then place.dropLast
      else place ++ [segment])
    []
  let slashes := whole.takeWhile (· == Path.slash)
  (if slashes.length = 2 then [Path.slash] else []) ++ Kernel.pathOf place

def isPhysical (given : List Given) : Bool :=
  given.getLast?.any fun option => option.letter == 0x50

def goTo (physically : Bool) (path : Bytes) : Act Bool := do
  let old ← view Memory.here
  let target := if physically then path else straightened old path
  match ← run (Proc.attempt fun number kernel => kernel.enter number target) with
  | .error _ => return false
  | .ok _ =>
      let new ← if physically then trueHere else pure target
      modify fun memory => { memory with here := new }
      assign beforeName old
      modify fun memory => memory.markExported beforeName
      assign hereName new
      modify fun memory => memory.markExported hereName
      return true

def isDirectory (path : Bytes) : Act Bool :=
  run <| Proc.ask fun number kernel =>
    match kernel.look number path with
    | .ok (_, .directory) => true
    | _ => false

def isPlaced (path : Bytes) : Bool :=
  path.head? == some Path.slash ||
    (Path.splitAt Path.slash path).head?.any fun first => first == Path.here || first == Path.up

/-- The first directory of a list below which a path is a directory, with whether it is to be
told. -/
def findBelow (path : Bytes) : List Bytes → Act (Option (Bytes × Bool))
  | [] => return none
  | base :: rest => do
      let candidate := if base.isEmpty then path else (Path.mk base).join ⟨path⟩ |>.bytes
      if ← isDirectory candidate then return some (candidate, !base.isEmpty)
      else findBelow path rest

/-- Goes to a directory, to the one before with a minus sign, and home without a word. -/
def changeDirectory : Action := fun words => do
  let (given, rest) ← takeOptions "LP" words
  let memory ← get
  let returns := rest.head? = some [0x2D]
  let asked :=
    if returns then memory.value? beforeName
    else rest.head?.or (memory.value? (Bytes.ofText "HOME"))
  let path := asked.getD []
  let target := if path.isEmpty then Path.here else path
  let list :=
    match memory.value? (Bytes.ofText "CDPATH") with
    | some list => if isPlaced path then [] else Path.splitAt 0x3A list
    | none => []
  let found ← findBelow target list
  let went ← goTo (isPhysical given) ((found.map Prod.fst).getD target)
  if !went then fail (Bytes.ofText "can't cd to " ++ target)
  else if returns || found.any Prod.snd then print ((← view Memory.here) ++ [0x0A])
  else return 0

def workingDirectory : Action := fun words => do
  let (given, _) ← takeOptions "LP" words
  let here ← if isPhysical given then trueHere else view Memory.here
  print (here ++ [0x0A])

def setMask (mask : Nat) : Act Unit :=
  run <| Proc.change fun number kernel =>
    kernel.modify number fun process => { process with mask := mask % 512 }

def mask : Action := fun words => do
  let (given, rest) ← takeOptions "S" words
  let current ← run (Proc.ask fun number kernel => (kernel.process number).mask)
  match rest with
  | [] =>
      let shown :=
        if given.isEmpty then Kernel.Mode.octal 4 current
        else Kernel.Mode.symbolic (Kernel.Mode.full - current)
      printText (shown ++ "\n")
  | word :: _ =>
      let text := Units.ofBytes word
      if text.head?.any Char.isDigit then
        if text.all Format.isOctal then
          setMask (Arithmetic.inBase 8 text)
          return 0
        else illegalNumber word
      else
        match Kernel.Mode.applyMode (Kernel.Mode.full - current) text with
        | some mode =>
            setMask (Kernel.Mode.full - mode)
            return 0
        | none => fail (Bytes.ofText "Illegal mode: " ++ word)

/-- A limit: its letter, its name, the size of its unit, and its usual lower and upper bounds. -/
structure Limit where
  letter : Char
  name : String
  unit : Nat := 1
  lower : Option Nat := none
  upper : Option Nat := none

def limits : List Limit :=
  [{ letter := 't', name := "time(seconds)" },
   { letter := 'f', name := "file(blocks)", unit := 512 },
   { letter := 'd', name := "data(kbytes)", unit := 1024 },
   { letter := 's', name := "stack(kbytes)", unit := 1024, lower := some 8388608 },
   { letter := 'c', name := "coredump(blocks)", unit := 512, lower := some 0 },
   { letter := 'm', name := "memory(kbytes)", unit := 1024 },
   { letter := 'l', name := "locked memory(kbytes)", unit := 1024, lower := some 8388608,
     upper := some 8388608 },
   { letter := 'p', name := "process", lower := some 128604, upper := some 128604 },
   { letter := 'n', name := "nofiles", lower := some 20000, upper := some 20000 },
   { letter := 'v', name := "vmemory(kbytes)", unit := 1024 },
   { letter := 'w', name := "locks" },
   { letter := 'r', name := "rtprio", lower := some 0, upper := some 0 }]

def boundsOf (process : Kernel.Process) (limit : Limit) : Option Nat × Option Nat :=
  (process.limits.lookup limit.letter).getD (limit.lower, limit.upper)

def boundText (limit : Limit) : Option Nat → String
  | none => "unlimited"
  | some value => toString (value / limit.unit)

def exceeds (one other : Option Nat) : Bool :=
  match one, other with
  | _, none => false
  | none, some _ => true
  | some first, some second => second < first

def wanted (isUpper : Bool) (bounds : Option Nat × Option Nat) : Option Nat :=
  if isUpper then bounds.2 else bounds.1

def limitListing (isUpper : Bool) (process : Kernel.Process) : String :=
  String.join <| limits.map fun limit =>
    limit.name ++ String.ofList (List.replicate (20 - limit.name.length) ' ') ++ " " ++
      boundText limit (wanted isUpper (boundsOf process limit)) ++ "\n"

def limitSize (limit : Limit) (digits : Units) : Option Nat :=
  some (Arithmetic.inBase 10 digits * limit.unit % Arithmetic.wordSize)

def setLimit (limit : Limit) (lower upper : Bool) (value : Option Nat) : Act Nat := do
  let process ← run (Proc.ask fun number kernel => kernel.process number)
  let old := boundsOf process limit
  let bounds := (if lower then value else old.1, if upper then value else old.2)
  if exceeds bounds.1 bounds.2 then failText "error setting limit (Invalid argument)"
  else if exceeds bounds.2 old.2 then failText "error setting limit (Operation not permitted)"
  else
    run <| Proc.change fun number kernel => kernel.modify number fun process =>
      { process with limits := Kernel.setKey process.limits limit.letter bounds }
    return 0

def limit : Action := fun words => do
  let (given, rest) ← takeOptions "HSatfdscmlpnvwr" words
  let isUpper := has 'H' given
  let isLower := has 'S' given
  let asked := given.filter fun option => !([0x48, 0x53, 0x61].contains option.letter)
  let letter := Char.ofNat ((asked.getLast?.map Given.letter).getD 0x66).toNat
  let process ← run (Proc.ask fun number kernel => kernel.process number)
  match limits.find? fun limit => limit.letter == letter with
  | none => return 0
  | some limit =>
      match rest with
      | [] =>
          if has 'a' given then printText (limitListing isUpper process)
          else printText (boundText limit (wanted isUpper (boundsOf process limit)) ++ "\n")
      | word :: more =>
          if has 'a' given || !more.isEmpty then failText "too many arguments"
          else
            let isBoth := isUpper == isLower
            if word = Bytes.ofText "unlimited" then
              setLimit limit (isBoth || isLower) (isBoth || isUpper) none
            else
              let digits := Units.ofBytes word
              if digits.all Char.isDigit then
                setLimit limit (isBoth || isLower) (isBoth || isUpper) (limitSize limit digits)
              else failText "bad number"

def times : Action := fun _ =>
  printText "0m0.000000s 0m0.000000s\n0m0.000000s 0m0.000000s\n"

end CompilerDriver.Machine.Shell.Builtin
