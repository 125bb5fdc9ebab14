import CompilerDriver.OsError
import CompilerDriver.Path

/-!
A tree of directories and regular files, and the directory in it from which relative paths start.
Every part of a path is looked up in turn, so a climb out of a missing directory fails. There are no
links, permissions or special files, and a file that was opened can always be written.
-/

namespace CompilerDriver

abbrev Name := Bytes

/-- A place in a tree: the names that lead to it from the root. -/
abbrev Place := List Name

inductive Node where
  | directory
  | file (bytes : Bytes) (executable : Bool)
  deriving Repr, DecidableEq, Inhabited

structure FileTree where
  start : Place := []
  entries : List (Place × Node) := []
  deriving Repr, DecidableEq, Inhabited

namespace FileTree

/-- What stands at a place. The root is always a directory. -/
def get? (tree : FileTree) (place : Place) : Option Node :=
  if place.isEmpty then some .directory else tree.entries.lookup place

def put (tree : FileTree) (place : Place) (node : Node) : FileTree :=
  { tree with entries := (place, node) :: tree.entries.filter fun entry => entry.1 != place }

def remove (tree : FileTree) (place : Place) : FileTree :=
  { tree with entries := tree.entries.filter fun entry => entry.1 != place }

theorem get?_put_self (tree : FileTree) (place : Place) (node : Node) (inside : place ≠ []) :
    (tree.put place node).get? place = some node := by
  simp [get?, put, inside]

def nameLimit : Nat := 255

def pathLimit : Nat := 4096

def enter (tree : FileTree) (place : Place) (segment : Bytes) : Except OsError Place :=
  match tree.get? place with
  | none => .error .noEntry
  | some (.file ..) => .error .notDirectory
  | some .directory =>
      if Path.isVacuous segment then .ok place
      else if segment = Path.up then .ok place.dropLast
      else if nameLimit < segment.length then .error .nameTooLong
      else .ok (place ++ [segment])

def enterAll (tree : FileTree) (place : Place) : List Bytes → Except OsError Place
  | [] => .ok place
  | segment :: rest =>
      match tree.enter place segment with
      | .ok next => tree.enterAll next rest
      | .error error => .error error

/-- The parts of a path as the system sees them, and where the walk along them starts. Empty parts
are skipped, but a slash at the end stays to be seen. -/
def approach (tree : FileTree) (path : Path) : Except OsError (Place × List Bytes) :=
  if path.bytes.contains 0 then .error .zeroInPath
  else if path.isEmpty then .error .noEntry
  else if pathLimit ≤ path.bytes.length then .error .nameTooLong
  else
    .ok (if path.isAbsolute then [] else tree.start,
      path.segments.filter fun segment => !segment.isEmpty)

def endsInSlash (path : Path) : Bool :=
  path.bytes.getLast? == some Path.slash

def locate (tree : FileTree) (path : Path) : Except OsError Place :=
  match tree.approach path with
  | .ok (place, segments) => tree.enterAll place segments
  | .error error => .error error

/-- What a path leads to. Behind a slash at the end, only a directory will do. -/
def look (tree : FileTree) (path : Path) : Except OsError (Place × Node) :=
  match tree.locate path with
  | .error error => .error error
  | .ok place =>
      match tree.get? place with
      | none => .error .noEntry
      | some .directory => .ok (place, .directory)
      | some node => if endsInSlash path then .error .notDirectory else .ok (place, node)

def isDirectory (tree : FileTree) (path : Path) : Bool :=
  match tree.look path with
  | .ok (_, .directory) => true
  | _ => false

def lacksName (segments : List Bytes) : Bool :=
  match segments.getLast? with
  | some segment => segment == Path.here || segment == Path.up
  | none => true

def makeDirectory (tree : FileTree) (path : Path) : Except OsError FileTree :=
  match tree.approach path with
  | .error error => .error error
  | .ok (origin, segments) =>
      match tree.enterAll origin segments with
      | .error error => .error error
      | .ok place =>
          if lacksName segments || (tree.get? place).isSome then .error .alreadyThere
          else .ok (tree.put place .directory)

/-- Makes a directory and whatever is missing above it. Of a failure nothing is kept but the
directories made before it; a directory that is there already is no failure. -/
def makeDirectories : (depth : Nat) → FileTree → Path → Option OsError × FileTree
  | 0, tree, _ => (none, tree)
  | depth + 1, tree, path =>
      let settle (tree : FileTree) : Except OsError FileTree → Option OsError × FileTree
        | .ok next => (none, next)
        | .error error => if tree.isDirectory path then (none, tree) else (some error, tree)
      match tree.makeDirectory path with
      | .error (.numbered 2) =>
          match path.parent? with
          | none => (some (.described "failed to create whole tree"), tree)
          | some parent =>
              if parent.isEmpty then settle tree (tree.makeDirectory path)
              else
                match makeDirectories depth tree parent with
                | (some error, next) => (some error, next)
                | (none, next) => settle next (next.makeDirectory path)
      | result => settle tree result

def makeAll (tree : FileTree) (path : Path) : Option OsError × FileTree :=
  makeDirectories path.segments.length tree path

/-- The place of a file that is opened to be written, and made if it is missing. A path that ends in
a slash or without a name of its own can only be a directory. -/
def openPlace (tree : FileTree) (path : Path) : Except OsError Place :=
  match tree.approach path with
  | .error error => .error error
  | .ok (origin, segments) =>
      match tree.enterAll origin segments.dropLast with
      | .error error => .error error
      | .ok parent =>
          let bare := lacksName segments || endsInSlash path
          match tree.enter parent (if bare then Path.here else segments.getLast?.getD []) with
          | .error error => .error error
          | .ok place =>
              if tree.get? place = some .directory then .error .isDirectory else .ok place

def writeFile (tree : FileTree) (path : Path) (bytes : Bytes) : Except OsError FileTree :=
  match tree.openPlace path with
  | .error error => .error error
  | .ok place =>
      let executable :=
        match tree.get? place with
        | some (.file _ executable) => executable
        | _ => false
      .ok (tree.put place (.file bytes executable))

/-- Writes a product: first the directories above it, then the file. -/
def writeProduct (tree : FileTree) (path : Path) (bytes : Bytes) : Option OsError × FileTree :=
  let write (tree : FileTree) : Option OsError × FileTree :=
    match tree.writeFile path bytes with
    | .ok next => (none, next)
    | .error error => (some error, tree)
  match path.parent? with
  | some parent =>
      if parent.isEmpty then write tree
      else
        match tree.makeAll parent with
        | (some error, next) => (some error, next)
        | (none, next) => write next
  | none => write tree

def readFile (tree : FileTree) (path : Path) : Except OsError Bytes :=
  match tree.look path with
  | .ok (_, .file bytes _) => .ok bytes
  | .ok (_, .directory) => .error .isDirectory
  | .error error => .error error

def bytesLe : Bytes → Bytes → Bool
  | [], _ => true
  | _ :: _, [] => false
  | left :: lefts, right :: rights =>
      if left = right then bytesLe lefts rights else left < right

def children (tree : FileTree) (place : Place) : List Name :=
  let names := tree.entries.filterMap fun entry =>
    if entry.1.length = place.length + 1 && place.isPrefixOf entry.1 then entry.1.getLast?
    else none
  names.mergeSort bytesLe

/-- Whether an entry was not there before, or held other bytes. -/
def isChange (before : FileTree) (entry : Place × Node) : Bool :=
  match entry.2, before.get? entry.1 with
  | .directory, some .directory => false
  | .file bytes _, some (.file old _) => bytes != old
  | _, _ => true

/-- What is new or different below the start of a tree, as relative paths in byte order. -/
def changes (before after : FileTree) : List (Path × Node) :=
  let below := after.entries.filter fun entry =>
    after.start.isPrefixOf entry.1 && entry.1 != after.start && isChange before entry
  let named := below.map fun entry =>
    (Path.ofSegments (entry.1.drop after.start.length), entry.2)
  named.mergeSort fun left right => bytesLe left.1.bytes right.1.bytes

def above (place : Place) : List Place :=
  (List.range place.length).map fun count => place.take count

def putBelow (tree : FileTree) (place : Place) (node : Node) : FileTree :=
  let filled := (above place).foldl
    (fun tree directory =>
      if (tree.get? directory).isSome then tree else tree.put directory .directory)
    tree
  filled.put place node

def plant (tree : FileTree) (path : Path) (node : Node) : FileTree :=
  tree.putBelow (tree.start ++ path.names) node

end CompilerDriver.FileTree
