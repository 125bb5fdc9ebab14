import CompilerDriver.Machine.Program.Files

/-!
Programs that copy and move files, and change who may run them.
-/

namespace CompilerDriver.Machine.Program

open Kernel (Proc)

/-- How things are brought to where they belong. -/
structure Transfer where
  descends : Bool := false
  isTold : Bool := false
  /-- Whether what is already there stays. -/
  keeps : Bool := false
  /-- Whether a target that is a directory is taken as a name like any other. -/
  asFile : Bool := false

/-- What a path leads to, if anything. Something in the way is another matter. -/
def target? (path : Bytes) : Proc (Except OsError (Option (Place × Node))) :=
  Proc.ask fun number kernel =>
    match kernel.look number path with
    | .ok found => .ok (some found)
    | .error error => if error = .noEntry then .ok none else .error error

def found? (path : Bytes) : Proc (Option (Place × Node)) :=
  Proc.ask fun number kernel => (kernel.look number path).toOption

def placeFor (path : Bytes) : Proc (Except OsError Place) :=
  Proc.ask fun number kernel =>
    let tree := kernel.treeOf number
    match tree.openPlace ⟨withoutTrailingSlashes path⟩ with
    | .ok place => .ok place
    | .error error => .error error
where
  withoutTrailingSlashes (path : Bytes) : Bytes :=
    let bare := (path.reverse.dropWhile (· == Path.slash)).reverse
    if bare.isEmpty then path else bare

def quotedPair (source target : Bytes) : Bytes :=
  Quoting.name source ++ Bytes.ofText " -> " ++ Quoting.name target

def areSame (call : Call) (source target : Bytes) : Proc Nat := do
  complain call (Quoting.name source ++ Bytes.ofText " and " ++ Quoting.name target ++
    Bytes.ofText " are the same file")
  return 1

def failedWith (call : Call) (front : String) (path : Bytes) (error : OsError) : Proc Nat := do
  complain call (Bytes.ofText front ++ Quoting.name path ++ Bytes.ofText (": " ++ reason error))
  return 1

def copyFile (call : Call) (transfer : Transfer) (source target : Bytes) (place : Place)
    (bytes : Bytes) (executable : Bool) : Proc Nat := do
  match ← target? target with
  | .error error => failedWith call "cannot stat " target error
  | .ok (some (other, .file _ mode)) =>
      if other = place then areSame call source target
      else if transfer.keeps then return 0
      else
        Proc.change fun _ kernel =>
          ({ kernel with tree := kernel.tree.put other (.file bytes mode) }).stamp other
        told
  | _ =>
      let slashed := target.getLast? == some Path.slash
      match ← placeFor target with
      | .error error => failedWith call "cannot create regular file " target error
      | .ok other =>
          if slashed then failedWith call "cannot create regular file " target .notDirectory
          else
            Proc.change fun _ kernel =>
              ({ kernel with tree := kernel.tree.put other (.file bytes executable) }).stamp other
            told
where
  told : Proc Nat := do
    if transfer.isTold then sayLine call (quotedPair source target)
    return 0

def copyTree (call : Call) (transfer : Transfer) :
    (depth : Nat) → (source target : Bytes) → Place → Node → Proc Nat
  | 0, _, _, _, _ => return 1
  | depth + 1, source, target, place, node => do
      match node with
      | .file bytes executable => copyFile call transfer source target place bytes executable
      | .directory =>
          let made ←
            match ← target? target with
            | .error error => do
                let _ ← failedWith call "cannot stat " target error
                pure false
            | .ok (some (_, .file ..)) => do
                complain call (Bytes.ofText "cannot overwrite non-directory " ++
                  Quoting.name target ++ Bytes.ofText " with directory " ++ Quoting.name source)
                pure false
            | .ok (some (_, .directory)) => pure true
            | .ok none => do
                match ← placeFor target with
                | .error error => do
                    let _ ← failedWith call "cannot create directory " target error
                    pure false
                | .ok other => do
                    Proc.change fun _ kernel =>
                      { kernel with tree := kernel.tree.put other .directory }
                    if transfer.isTold then sayLine call (quotedPair source target)
                    pure true
          if made then
            let names ← Proc.ask fun _ kernel => kernel.tree.children place
            forEach
              (fun name => do
                match ← Proc.ask fun _ kernel => kernel.tree.get? (place ++ [name]) with
                | some inner =>
                    copyTree call transfer depth (below source name) (below target name)
                      (place ++ [name]) inner
                | none => return 0)
              names
          else return 1

def leadsBelow (place : Place) (target : Bytes) : Proc Bool := do
  match ← found? target with
  | some (other, _) => return place.isPrefixOf other
  | none =>
      match ← placeFor target with
      | .ok other => return place.isPrefixOf other
      | .error _ => return false

def copyPath (call : Call) (transfer : Transfer) (source target : Bytes) : Proc Nat := do
  match ← Proc.ask fun number kernel => kernel.look number source with
  | .error error => failedWith call "cannot stat " source error
  | .ok (place, node) =>
      match node with
      | .directory =>
          if !transfer.descends then
            complain call (Bytes.ofText "-r not specified; omitting directory " ++
              Quoting.name source)
            return 1
          else if ← leadsBelow place target then
            let _ ← copyTree call transfer 2 source target place node
            complain call (Bytes.ofText "cannot copy a directory, " ++ Quoting.name source ++
              Bytes.ofText ", into itself, " ++ Quoting.name target)
            return 1
          else copyTree call transfer depthLimit source target place node
      | .file .. => copyTree call transfer depthLimit source target place node

def isBelow (place other : Place) : Bool :=
  place.isPrefixOf other && place != other

def movePath (call : Call) (transfer : Transfer) (source target : Bytes) : Proc Nat := do
  match ← Proc.ask fun number kernel => kernel.look number source with
  | .error error => failedWith call "cannot stat " source error
  | .ok (place, node) =>
      let isDirectory := node == .directory
      match ← target? target with
      | .error error => failedWith call "cannot stat " target error
      | .ok (some (other, there)) =>
          if other = place then areSame call source target
          else if transfer.keeps then return 0
          else if isDirectory && there != .directory then
            complain call (Bytes.ofText "cannot overwrite non-directory " ++ Quoting.name target ++
              Bytes.ofText " with directory " ++ Quoting.name source)
            return 1
          else if !isDirectory && there == .directory then
            complain call (Bytes.ofText "cannot overwrite directory " ++ Quoting.name target ++
              Bytes.ofText " with non-directory")
            return 1
          else if isBelow place other then intoItself
          else
            let full ← Proc.ask fun _ kernel => !(kernel.tree.children other).isEmpty
            if isDirectory && full then
              complain call (Bytes.ofText "cannot overwrite " ++ Quoting.name target ++
                Bytes.ofText ": Directory not empty")
              return 1
            else moved place other
      | .ok none =>
          match ← placeFor target with
          | .error error =>
              complain call (Bytes.ofText "cannot move " ++ Quoting.name source ++
                Bytes.ofText " to " ++ Quoting.name target ++ Bytes.ofText (": " ++ reason error))
              return 1
          | .ok other =>
              if target.getLast? = some Path.slash && !isDirectory then
                complain call (Bytes.ofText "cannot move " ++ Quoting.name source ++
                  Bytes.ofText " to " ++ Quoting.name target ++ Bytes.ofText ": Not a directory")
                return 1
              else if isBelow place other then intoItself
              else moved place other
where
  intoItself : Proc Nat := do
    complain call (Bytes.ofText "cannot move " ++ Quoting.name source ++
      Bytes.ofText " to a subdirectory of itself, " ++ Quoting.name target)
    return 1
  moved (place other : Place) : Proc Nat := do
    Proc.change fun _ kernel => kernel.move place other
    if transfer.isTold then
      sayLine call (Bytes.ofText "renamed " ++ quotedPair source target)
    return 0

def ownName (path : Bytes) : Bytes :=
  let bare := (path.reverse.dropWhile (· == Path.slash)).reverse
  (bare.reverse.takeWhile (· != Path.slash)).reverse

def transferAll (call : Call) (transfer : Transfer) (directory : Option Bytes)
    (action : (source target : Bytes) → Proc Nat) (words : List Bytes) : Proc Nat := do
  match directory, words with
  | _, [] => refuseText call 1 "missing file operand"
  | some target, sources =>
      forEach (fun source => action source (below target (ownName source))) sources
  | none, [only] =>
      refuse call 1 (Bytes.ofText "missing destination file operand after " ++ Quoting.name only)
  | none, _ =>
      let target := words.getLast?.getD []
      let sources := words.dropLast
      let goesInside ←
        if transfer.asFile then pure false else leadsToDirectory target
      match goesInside, sources with
      | true, _ => forEach (fun source => action source (below target (ownName source))) sources
      | false, [source] => action source target
      | false, _ =>
          if transfer.asFile then
            refuse call 1 (Bytes.ofText "extra operand " ++ Quoting.name target)
          else
            let problem ← Proc.ask fun number kernel => kernel.look number target
            match problem with
            | .error error => failedWith call "target " target error
            | .ok _ => failedWith call "target " target .notDirectory

def transferNames : List Options.Named :=
  [{ name := "force", letter := 'f' }, { name := "no-clobber", letter := 'n' },
   { name := "verbose", letter := 'v' }, { name := "recursive", letter := 'r' },
   { name := "archive", letter := 'a' }, { name := "no-target-directory", letter := 'T' },
   { name := "target-directory", operand := .required, letter := 't' }]

def transferOf (given : List Options.Given) : Transfer :=
  { descends := ['r', 'R', 'a'].any fun letter => Options.has letter given
    isTold := Options.has 'v' given
    keeps := (Options.last? ['f', 'i', 'n'] given).any fun option => option.letter == 'n'
    asFile := Options.has 'T' given }

def copy : Program := fun call =>
  let table : Options.Table :=
    { letters := Options.plain "abdfHilLnprRsTuvxPZ" ++ [('t', .required), ('S', .required)]
      names := transferNames }
  Options.withOptions call table 1 fun given words => do
    let transfer := transferOf given
    if transfer.keeps then
      complainText call
        ("warning: behavior of -n is non-portable and may change in future; " ++
          "use --update=none instead")
    transferAll call transfer (Options.word? 't' given) (copyPath call transfer) words

def move : Program := fun call =>
  let table : Options.Table :=
    { letters := Options.plain "bfinTuvZ" ++ [('t', .required), ('S', .required)]
      names := transferNames }
  Options.withOptions call table 1 fun given words => do
    let transfer := transferOf given
    transferAll call transfer (Options.word? 't' given) (movePath call transfer) words

/-- The permissions of what stands in a tree. Of a file only those to run it are kept. -/
def modeOf : Node → Nat
  | .directory => 493
  | .file _ executable => if executable then 493 else 420

def newMode? (word : Bytes) (mode : Nat) : Option Nat :=
  let text := word.map fun byte => Char.ofNat byte.toNat
  if !isMode word then none
  else if text.head?.any Char.isDigit then (Kernel.Mode.ofOctal? text).map (· % 512)
  else Kernel.Mode.applyMode mode text

def modeShown (mode : Nat) : String :=
  Kernel.Mode.octal 4 mode ++ " (" ++ Kernel.Mode.listing mode ++ ")"

def runBits : Nat := 73

def setMode (call : Call) (tells : Bool) (word path : Bytes) (place : Place) (node : Node) :
    Proc Nat := do
  let old := modeOf node
  let new := (newMode? word old).getD old
  match node with
  | .file bytes _ =>
      let executable := Nat.land new runBits != 0
      Proc.change fun _ kernel =>
        { kernel with tree := kernel.tree.put place (.file bytes executable) }
  | .directory => pure ()
  if tells then
    let change :=
      if old = new then " retained as " ++ modeShown old
      else " changed from " ++ modeShown old ++ " to " ++ modeShown new
    sayLine call (Bytes.ofText "mode of " ++ Quoting.name path ++ Bytes.ofText change)
  return 0

def setModes (call : Call) (tells descends : Bool) (word : Bytes) :
    (depth : Nat) → Bytes → Place → Node → Proc Nat
  | 0, _, _, _ => return 1
  | depth + 1, path, place, node => do
      let status ← setMode call tells word path place node
      if !descends then return status
      else
        let names ← Proc.ask fun _ kernel => kernel.tree.children place
        let inner ← forEach
          (fun name => do
            match ← Proc.ask fun _ kernel => kernel.tree.get? (place ++ [name]) with
            | some inner =>
                setModes call tells descends word depth (below path name) (place ++ [name]) inner
            | none => return 0)
          names
        return worse status inner

def isModeWord (word : Bytes) : Bool :=
  match word with
  | 0x2D :: letter :: _ => Quoting.isIn "rwxXstugoa,+=" letter && isMode word
  | _ => false

def changeMode : Program := fun call =>
  let table : Options.Table :=
    { letters := Options.plain "Rcfv"
      names := [{ name := "recursive", letter := 'R' }, { name := "verbose", letter := 'v' },
        { name := "changes", letter := 'c' }, { name := "quiet", letter := 'f' },
        { name := "silent", letter := 'f' }]
      isOperand := isModeWord }
  Options.withOptions call table 1 fun given words => do
    match words with
    | [] => refuseText call 1 "missing operand"
    | [mode] => refuse call 1 (Bytes.ofText "missing operand after " ++ Quoting.word mode)
    | mode :: paths =>
        if !isMode mode then refuse call 1 (Bytes.ofText "invalid mode: " ++ Quoting.word mode)
        else
          forEach
            (fun path => do
              match ← Proc.ask fun number kernel => kernel.look number path with
              | .error error => failedWith call "cannot access " path error
              | .ok (place, node) =>
                  setModes call (Options.has 'v' given) (Options.has 'R' given) mode depthLimit
                    path place node)
            paths

end CompilerDriver.Machine.Program
