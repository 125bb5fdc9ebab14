import CompilerDriver.Machine.Kernel.Channel

/-!
Files as processes open, remove and move them. A file that is removed while it is open goes on
holding what it held, for those who have it open. The files of the device directory stand for
devices, and some of them for the channels of whoever opens them.
-/

namespace CompilerDriver.Machine.Kernel

def deviceDirectory : Place := [Bytes.ofText "dev"]

def deviceAt? (place : Place) : Option Device :=
  if place.dropLast = deviceDirectory then
    match Text.Utf8.lossy (place.getLast?.getD []) with
    | "null" => some .null
    | "zero" => some .zero
    | "full" => some .full
    | _ => none
  else none

def channelNames : List (String × Nat) :=
  [("stdin", 0), ("stdout", 1), ("stderr", 2)]

def channelAt? (place : Place) : Option Nat :=
  let name := Text.Utf8.lossy (place.getLast?.getD [])
  if place.dropLast = deviceDirectory then channelNames.lookup name
  else if place.dropLast = deviceDirectory ++ [Bytes.ofText "fd"] then name.toNat?
  else none

def isTerminal (place : Place) : Bool :=
  place == deviceDirectory ++ [Bytes.ofText "tty"]

def look (kernel : Kernel) (number : Nat) (path : Bytes) : Except OsError (Place × Node) :=
  (kernel.treeOf number).look ⟨path⟩

def withTree (kernel : Kernel) (tree : FileTree) : Kernel :=
  { kernel with tree := { tree with start := kernel.tree.start } }

def readFile (kernel : Kernel) (number : Nat) (path : Bytes) : Except OsError Bytes :=
  match kernel.look number path with
  | .error error => .error error
  | .ok (_, .directory) => .error .isDirectory
  | .ok (place, .file bytes _) =>
      if (deviceAt? place).isSome || isTerminal place then .ok [] else .ok bytes

inductive Opening where
  | input
  | output
  | append
  | update
  /-- For writing, but no file that is there already. -/
  | new
  deriving Repr, DecidableEq, Inhabited

def Opening.access : Opening → Access
  | .input => { reads := true }
  | .output | .new => { writes := true }
  | .append => { writes := true, appends := true }
  | .update => { reads := true, writes := true }

def reopen (kernel : Kernel) (number channel other : Nat) : Except OsError Kernel :=
  match kernel.stream? number other with
  | none => .error .noEntry
  | some (_, .file place _ access) => .ok (kernel.openOn number channel (.file place 0 access))
  | some (stream, _) => .ok (kernel.bind number channel stream)

def openToWrite (kernel : Kernel) (number channel : Nat) (opening : Opening) (place : Place) :
    Except OsError Kernel :=
  match kernel.tree.get? place with
  | some (.file bytes executable) =>
      if opening = .new then .error .alreadyThere
      else
        let emptied :=
          if opening = .output then
            { kernel with tree := kernel.tree.put place (.file [] executable) }.stamp place
          else kernel
        .ok (emptied.openOn number channel
          (.file place (if opening = .append then bytes.length else 0) opening.access))
  | _ =>
      let made := { kernel with tree := kernel.tree.put place (.file [] false) }.stamp place
      .ok (made.openOn number channel (.file place 0 opening.access))

def openFile (kernel : Kernel) (number channel : Nat) (path : Bytes) (opening : Opening) :
    Except OsError Kernel :=
  let tree := kernel.treeOf number
  let special : Option (Except OsError Kernel) :=
    match tree.locate ⟨path⟩ with
    | .error _ => none
    | .ok place =>
        match deviceAt? place, channelAt? place with
        | some device, _ => some (.ok (kernel.openOn number channel (.device device)))
        | none, some other => some (kernel.reopen number channel other)
        | none, none => if isTerminal place then some (.error .noDevice) else none
  match special with
  | some result => result
  | none =>
      if opening = .input then
        match tree.look ⟨path⟩ with
        | .error error => .error error
        | .ok (place, .directory) => .ok (kernel.openOn number channel (.directory place))
        | .ok (place, .file ..) =>
            .ok (kernel.openOn number channel (.file place 0 opening.access))
      else
        match tree.openPlace ⟨path⟩ with
        | .error error => .error error
        | .ok place => kernel.openToWrite number channel opening place

def setAdrift (kernel : Kernel) (place : Place) : Kernel :=
  let isOpenHere := kernel.streams.any fun entry =>
    match entry.2 with
    | .file other _ _ => other == place
    | _ => false
  if !isOpenHere then kernel
  else
    let number := kernel.fresh
    { kernel with
      fresh := number + 1
      adrift := (number, kernel.contents place) :: kernel.adrift
      streams := kernel.streams.map fun entry =>
        match entry.2 with
        | .file other offset access =>
            (entry.1, if other == place then .adrift number offset access else entry.2)
        | _ => entry }

def removeBelow (kernel : Kernel) (place : Place) : Kernel :=
  let gone := kernel.tree.entries.filter fun entry => place.isPrefixOf entry.1
  let loosened := gone.foldl (fun kernel entry => kernel.setAdrift entry.1) kernel
  { loosened with
    tree := { loosened.tree with
      entries := loosened.tree.entries.filter fun entry => !place.isPrefixOf entry.1 } }

def move (kernel : Kernel) (place target : Place) : Kernel :=
  if place = target then kernel
  else
    let cleared := kernel.removeBelow target
    let moved (other : Place) : Place :=
      if place.isPrefixOf other then target ++ other.drop place.length else other
    { cleared with
      tree := { cleared.tree with
        entries := cleared.tree.entries.map fun entry => (moved entry.1, entry.2) }
      stamps := cleared.stamps.map fun entry => (moved entry.1, entry.2)
      processes := cleared.processes.map fun entry =>
        (entry.1, { entry.2 with directory := moved entry.2.directory })
      streams := cleared.streams.map fun entry =>
        match entry.2 with
        | .file other offset access => (entry.1, .file (moved other) offset access)
        | _ => entry }

def enter (kernel : Kernel) (number : Nat) (path : Bytes) : Except OsError Kernel :=
  match kernel.look number path with
  | .error error => .error error
  | .ok (place, .directory) =>
      .ok (kernel.modify number fun process => { process with directory := place })
  | .ok (_, .file ..) => .error .notDirectory

def pathOf (place : Place) : Bytes :=
  Path.slash :: Path.joinWith Path.slash place

end CompilerDriver.Machine.Kernel
