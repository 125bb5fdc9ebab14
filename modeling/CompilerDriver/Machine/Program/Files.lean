import CompilerDriver.Machine.Kernel.Mode
import CompilerDriver.Machine.Program.Portion
import CompilerDriver.Machine.Shell.Pattern

/-!
Programs that list, make and remove files and directories.
-/

namespace CompilerDriver.Machine.Program

open Kernel (Proc)

/-! ### Listing -/

inductive Layout where
  | perLine
  | commas
  | across
  | down
  deriving DecidableEq

structure Entry where
  name : Bytes
  place : Place
  node : Node

def Entry.isDirectory (entry : Entry) : Bool :=
  entry.node == .directory

def Entry.size (entry : Entry) : Nat :=
  match entry.node with
  | .file bytes _ => bytes.length
  | .directory => 4096

structure Listing where
  showsHidden : Bool := false
  showsSelf : Bool := false
  asFiles : Bool := false
  descends : Bool := false
  isReversed : Bool := false
  isSorted : Bool := true
  byTime : Bool := false
  bySize : Bool := false
  byEnding : Bool := false
  directoriesFirst : Bool := false
  marksDirectories : Bool := false
  marksPrograms : Bool := false
  isQuoted : Bool := false
  layout : Layout := .perLine
  width : Nat := 80
  ending : UInt8 := 0x0A
  isIgnored : Entry → Bool := fun _ => false

def endingOfName (name : Bytes) : Bytes :=
  let behind := (name.reverse.takeWhile (· != Path.dot)).reverse
  if behind.length = name.length then [] else Path.dot :: behind

def Listing.sort (listing : Listing) (kernel : Kernel) (entries : List Entry) : List Entry :=
  let byName := entries.mergeSort fun left right => FileTree.bytesLe left.name right.name
  let time (entry : Entry) : Nat := (kernel.stamps.lookup entry.place).getD 0
  let sorted :=
    if !listing.isSorted then entries
    else if listing.bySize then byName.mergeSort fun left right => right.size ≤ left.size
    else if listing.byTime then byName.mergeSort fun left right => time right ≤ time left
    else if listing.byEnding then
      byName.mergeSort fun left right =>
        FileTree.bytesLe (endingOfName left.name) (endingOfName right.name)
    else byName
  let ordered := if listing.isReversed && listing.isSorted then sorted.reverse else sorted
  if listing.directoriesFirst then
    ordered.filter Entry.isDirectory ++ ordered.filter fun entry => !entry.isDirectory
  else ordered

def Listing.mark (listing : Listing) (node : Node) : Bytes :=
  match node with
  | .directory => if listing.marksDirectories then [Path.slash] else []
  | .file _ executable => if listing.marksPrograms && executable then [0x2A] else []

def inDoubleQuotes (name : Bytes) : Bytes :=
  let shown (byte : UInt8) : Bytes :=
    if byte = 0x22 || byte = 0x5C then [0x5C, byte]
    else if Quoting.isPrintable byte then [byte]
    else Quoting.escaped byte
  0x22 :: name.flatMap shown ++ [0x22]

def Listing.shown (listing : Listing) (entry : Entry) : Bytes :=
  (if listing.isQuoted then inDoubleQuotes entry.name else entry.name) ++ listing.mark entry.node

def withCommas (width : Nat) : (column : Nat) → List Bytes → Bytes
  | _, [] => []
  | _, [last] => last ++ [0x0A]
  | column, name :: next :: rest =>
      let end_ := column + name.length
      if width = 0 || end_ + next.length + 2 < width then
        name ++ [0x2C, 0x20] ++ withCommas width (end_ + 2) (next :: rest)
      else name ++ [0x2C, 0x0A] ++ withCommas width 0 (next :: rest)

def blanks : (steps : Nat) → (start stop : Nat) → Bytes
  | 0, _, _ => []
  | steps + 1, start, stop =>
      if stop ≤ start then []
      else if (start + 1) / 8 < stop / 8 then 0x09 :: blanks steps (start + 8 - start % 8) stop
      else 0x20 :: blanks steps (start + 1) stop

def columnWidths (columns : Nat) (columnOf : Nat → Nat) (names : List Bytes) : List Nat :=
  let indexed := names.zipIdx
  (List.range columns).map fun column =>
    let widths := (indexed.filter fun entry => columnOf entry.2 == column).map fun entry =>
      entry.1.length + if column + 1 = columns then 0 else 2
    widths.foldl max 3

/-- The names of a row, each but the last one followed by blanks up to the next column. -/
def rowOf : (start : Nat) → (widths : List Nat) → List Bytes → Bytes
  | _, _, [] => []
  | _, _, [last] => last
  | start, widths, name :: rest =>
      let stop := start + widths.headD 0
      name ++ blanks (stop + 1) (start + name.length) stop ++ rowOf stop (widths.drop 1) rest

/-- Names in as many columns as fit, which are filled one after the other or all at once. -/
def inColumns (isDown : Bool) (width : Nat) (names : List Bytes) : Bytes :=
  let count := names.length
  let columnOf (columns index : Nat) : Nat :=
    if isDown then index / ((count + columns - 1) / columns) else index % columns
  let fits (columns : Nat) : Bool :=
    width = 0 ||
      (columnWidths columns (columnOf columns) names).foldl (· + ·) 0 < width
  let most := if width = 0 then count else min count (width / 3 + if width % 3 = 0 then 0 else 1)
  let columns := ((List.range most).map (most - ·)).find? fun columns => columns ≤ 1 || fits columns
  let chosen := max 1 (columns.getD 1)
  let rows := (count + chosen - 1) / chosen
  let widths := columnWidths chosen (columnOf chosen) names
  let rowIndex (index : Nat) : Nat := if isDown then index % rows else index / chosen
  (List.range rows).flatMap fun row =>
    rowOf 0 widths ((names.zipIdx.filter fun entry => rowIndex entry.2 == row).map Prod.fst) ++
      [0x0A]

def Listing.lines (listing : Listing) (entries : List Entry) : Bytes :=
  let names := entries.map listing.shown
  match listing.layout with
  | .perLine => names.flatMap fun name => name ++ [listing.ending]
  | .commas => withCommas listing.width 0 names
  | .across => inColumns false listing.width names
  | .down => inColumns true listing.width names

def Listing.inside (listing : Listing) (kernel : Kernel) (place : Place) : List Entry :=
  let children := (kernel.tree.children place).filterMap fun name =>
    (kernel.tree.get? (place ++ [name])).map fun node =>
      ({ name := name, place := place ++ [name], node := node } : Entry)
  let visible := children.filter fun entry =>
    (listing.showsHidden || entry.name.head? != some Path.dot) && !listing.isIgnored entry
  let own : List Entry :=
    if listing.showsSelf then
      [{ name := Path.here, place := place, node := .directory },
       { name := Path.up, place := place.dropLast, node := .directory }]
    else []
  listing.sort kernel (own ++ visible)

def below (directory name : Bytes) : Bytes :=
  if directory.getLast? = some Path.slash then directory ++ name
  else directory ++ Path.slash :: name

def Listing.blocks (listing : Listing) (kernel : Kernel) (isTitled : Bool) :
    (depth : Nat) → Bytes → Place → List Bytes
  | 0, _, _ => []
  | depth + 1, name, place =>
      let entries := listing.inside kernel place
      let title := if isTitled then name ++ [0x3A, 0x0A] else []
      let inner :=
        if listing.descends then
          entries.filter fun entry =>
            entry.isDirectory && entry.name != Path.here && entry.name != Path.up
        else []
      (title ++ listing.lines entries) ::
        inner.flatMap fun entry =>
          listing.blocks kernel isTitled depth (below name entry.name) entry.place

def listTable : Options.Table :=
  { letters := Options.plain "aAbBcCdfFgGhHiklLmnNopqQrRsStuUvxXZ1" ++
      [('I', .required), ('T', .required), ('w', .required)]
    names := [{ name := "all", letter := 'a' }, { name := "almost-all", letter := 'A' },
      { name := "directory", letter := 'd' },
      { name := "classify", operand := .optional, letter := 'F' },
      { name := "quote-name", letter := 'Q' }, { name := "reverse", letter := 'r' },
      { name := "recursive", letter := 'R' },
      { name := "color", operand := .optional, letter := '0' },
      { name := "sort", operand := .required, letter := '2' },
      { name := "format", operand := .required, letter := '3' },
      { name := "indicator-style", operand := .required, letter := '4' },
      { name := "quoting-style", operand := .required, letter := '5' },
      { name := "group-directories-first", letter := '6' }, { name := "zero", letter := '7' },
      { name := "file-type", letter := 'p' },
      { name := "width", operand := .required, letter := 'w' },
      { name := "ignore", operand := .required, letter := 'I' },
      { name := "hide", operand := .required, letter := 'I' }] }

def layoutOf (given : List Options.Given) : Layout :=
  match Options.last? ['1', 'C', 'm', 'x', '3'] given with
  | some { letter := 'C', .. } => .down
  | some { letter := 'm', .. } => .commas
  | some { letter := 'x', .. } => .across
  | some { letter := '3', word := some word } =>
      match shown word with
      | "commas" => .commas
      | "across" | "horizontal" => .across
      | "vertical" => .down
      | _ => .perLine
  | _ => .perLine

def isIgnored (given : List Options.Given) (entry : Entry) : Bool :=
  given.any fun option =>
    option.letter == 'I' && option.word.any fun word =>
      (Shell.Pattern.ofCells ((Shell.Units.ofBytes word).map fun unit =>
        { unit := unit, quoted := false })).covers
        (Shell.Units.ofBytes entry.name)

def listed (call : Call) : List Bytes → Proc (List Entry × Nat)
  | [] => return ([], 0)
  | word :: rest => do
      match ← Proc.ask fun number kernel => kernel.look number word with
      | .error error =>
          complain call (Bytes.ofText "cannot access " ++ Quoting.name word ++
            Bytes.ofText (": " ++ reason error))
          let (others, _) ← listed call rest
          return (others, 2)
      | .ok (place, node) =>
          let (others, status) ← listed call rest
          return ({ name := word, place := place, node := node } :: others, status)

def depthLimit : Nat := 4096

def listFiles : Program := fun call =>
  Options.withOptions call listTable 2 fun given words => do
    let has (letter : Char) : Bool := Options.has letter given
    let word (letter : Char) : String := shown ((Options.word? letter given).getD [])
    let sortWord := word '2'
    let listing : Listing :=
      { showsHidden := has 'a' || has 'A' || has 'f', showsSelf := has 'a' || has 'f'
        asFiles := has 'd', descends := has 'R', isReversed := has 'r'
        isSorted := !(has 'U' || has 'f' || sortWord == "none")
        byTime := has 't' || sortWord == "time", bySize := has 'S' || sortWord == "size"
        byEnding := has 'X' || sortWord == "extension", directoriesFirst := has '6'
        marksDirectories := has 'F' || has 'p' || word '4' == "slash"
        marksPrograms := has 'F', isQuoted := has 'Q' || word '5' == "c"
        layout := if has '7' then .perLine else layoutOf given
        width := (Options.word? 'w' given).elim 80 Amount.digitsValue
        ending := if has '7' then 0 else 0x0A
        isIgnored := isIgnored given }
    let named := if words.isEmpty then [Path.here] else words
    let (entries, status) ← listed call named
    let output ← Proc.ask fun _ kernel =>
      let sorted := listing.sort kernel entries
      let apart := sorted.filter fun entry => entry.isDirectory && !listing.asFiles
      let files := sorted.filter fun entry => !entry.isDirectory || listing.asFiles
      let isTitled := listing.descends || 1 < named.length
      let blocks := apart.flatMap fun entry =>
        listing.blocks kernel isTitled depthLimit entry.name entry.place
      let first := if files.isEmpty then [] else [listing.lines files]
      ((first ++ blocks).intersperse [0x0A]).flatten
    printOr 2 call output status

/-! ### Changing the tree -/

def changeTree (change : FileTree → Except OsError FileTree) : Proc (Except OsError Unit) :=
  Proc.attempt fun number kernel =>
    (change (kernel.treeOf number)).map fun tree => kernel.withTree tree

def sayLine (call : Call) (line : Bytes) : Proc Unit :=
  writeOrEnd call (line ++ [0x0A])

def ancestors (path : Bytes) : List Bytes :=
  let starts := (List.range path.length).filter fun position =>
    path[position]? == some Path.slash && 0 < position &&
      path[position - 1]? != some Path.slash &&
      ((path.drop position).any fun byte => byte != Path.slash)
  starts.map path.take

structure Making where
  withParents : Bool := false
  isTold : Bool := false

def makeFailure (call : Call) (path : Bytes) (error : OsError) : Proc Nat := do
  complain call (Bytes.ofText "cannot create directory " ++ Quoting.word path ++
    Bytes.ofText (": " ++ reason error))
  return 1

def makeOne (call : Call) (making : Making) (path : Bytes) : Proc (Except OsError Unit) := do
  match ← changeTree fun tree => tree.makeDirectory ⟨path⟩ with
  | .error error => return .error error
  | .ok _ =>
      if making.isTold then
        sayLine call (call.name ++ Bytes.ofText ": created directory " ++ Quoting.name path)
      return .ok ()

def leadsToDirectory (path : Bytes) : Proc Bool :=
  Proc.ask fun number kernel => (kernel.treeOf number).isDirectory ⟨path⟩

def makeAncestors (call : Call) (making : Making) : List Bytes → Proc Nat
  | [] => return 0
  | path :: rest => do
      match ← makeOne call making path with
      | .ok _ => makeAncestors call making rest
      | .error error =>
          if ← leadsToDirectory path then makeAncestors call making rest
          else makeFailure call path (if error = .alreadyThere then .notDirectory else error)

def makePath (call : Call) (making : Making) (path : Bytes) : Proc Nat := do
  if making.withParents then
    let status ← makeAncestors call making (ancestors path)
    if status != 0 then return status
    else
      match ← makeOne call making path with
      | .ok _ => return 0
      | .error error =>
          if error = .alreadyThere && (← leadsToDirectory path) then return 0
          else makeFailure call path error
  else
    match ← makeOne call making path with
    | .ok _ => return 0
    | .error error => makeFailure call path error

def isMode (word : Bytes) : Bool :=
  let text := word.map fun byte => Char.ofNat byte.toNat
  if text.head?.any Char.isDigit then (Kernel.Mode.ofOctal? text).any (· ≤ 4095)
  else
    (Kernel.Mode.applyMode Kernel.Mode.full text).isSome &&
      text.any fun letter => "+-=".contains letter

def makeDirectories : Program := fun call =>
  let table : Options.Table :=
    { letters := [('m', .required), ('p', .none), ('v', .none), ('Z', .none)]
      names := [{ name := "mode", operand := .required, letter := 'm' },
        { name := "parents", letter := 'p' }, { name := "verbose", letter := 'v' }] }
  Options.withOptions call table 1 fun given words =>
    match words, Options.word? 'm' given with
    | [], _ => refuseText call 1 "missing operand"
    | _, some mode =>
        if isMode mode then make call given words
        else do
          complain call (Bytes.ofText "invalid mode " ++ Quoting.word mode)
          return 1
    | _, none => make call given words
where
  make (call : Call) (given : List Options.Given) (words : List Bytes) : Proc Nat :=
    forEach (makePath call
      { withParents := Options.has 'p' given, isTold := Options.has 'v' given }) words

def dropDirectory (path : Bytes) : Proc (Except OsError Unit) :=
  Proc.attempt fun number kernel =>
    let tree := kernel.treeOf number
    let last := (Path.segments ⟨path⟩).filter fun segment => !segment.isEmpty
    match tree.look ⟨path⟩ with
    | .error error => .error error
    | .ok (_, .file ..) => .error .notDirectory
    | .ok (place, .directory) =>
        if last.getLast? = some Path.here then .error (.numbered 22)
        else if last.getLast? = some Path.up then .error .notEmpty
        else if place.isEmpty then .error (.numbered 16)
        else if !(tree.children place).isEmpty then .error .notEmpty
        else .ok (kernel.withTree (tree.remove place))

structure Emptying where
  withParents : Bool := false
  isTold : Bool := false
  toleratesFull : Bool := false

def emptyOne (call : Call) (emptying : Emptying) (what : String) (path : Bytes) :
    Proc (Nat × Bool) := do
  if emptying.isTold then
    sayLine call (call.name ++ Bytes.ofText ": removing directory, " ++ Quoting.name path)
  match ← dropDirectory path with
  | .ok _ => return (0, true)
  | .error error =>
      if emptying.toleratesFull && error = .notEmpty then return (0, false)
      else
        complain call (Bytes.ofText ("failed to remove " ++ what) ++ Quoting.name path ++
          Bytes.ofText (": " ++ reason error))
        return (1, false)

def emptyAncestors (call : Call) (emptying : Emptying) : List Bytes → Proc Nat
  | [] => return 0
  | path :: rest => do
      let (status, goesOn) ← emptyOne call emptying "directory " path
      if goesOn then emptyAncestors call emptying rest else return status

def emptyPath (call : Call) (emptying : Emptying) (path : Bytes) : Proc Nat := do
  let (status, goesOn) ← emptyOne call emptying "" path
  if goesOn && emptying.withParents then
    emptyAncestors call emptying (ancestors path).reverse
  else return status

def removeDirectories : Program := fun call =>
  let table : Options.Table :=
    { letters := Options.plain "pv"
      names := [{ name := "ignore-fail-on-non-empty", letter := 'i' },
        { name := "parents", letter := 'p' }, { name := "verbose", letter := 'v' }] }
  Options.withOptions call table 1 fun given words =>
    if words.isEmpty then refuseText call 1 "missing operand"
    else
      let emptying : Emptying :=
        { withParents := Options.has 'p' given, isTold := Options.has 'v' given
          toleratesFull := Options.has 'i' given }
      forEach (emptyPath call emptying) words

structure Removing where
  isForced : Bool := false
  descends : Bool := false
  takesEmpty : Bool := false
  isTold : Bool := false
  asks : Bool := false

def removeFailure (call : Call) (path : Bytes) (error : OsError) : Proc Nat := do
  complain call (Bytes.ofText "cannot remove " ++ Quoting.name path ++
    Bytes.ofText (": " ++ reason error))
  return 1

def readAnswer : (steps : Nat) → Bytes → Proc Bytes
  | 0, line => return line
  | steps + 1, line => do
      match ← Proc.read 0 1 with
      | .ok [byte] => if byte = 0x0A then return line else readAnswer steps (line ++ [byte])
      | _ => return line

def agrees (call : Call) (question : Bytes) : Proc Bool := do
  warn (call.name ++ Bytes.ofText ": " ++ question ++ Bytes.ofText "? ")
  let answer ← readAnswer 65536 []
  return answer.head? == some 0x79 || answer.head? == some 0x59

def mayRemove (call : Call) (removing : Removing) (what : String) (path : Bytes) : Proc Bool :=
  if removing.asks then agrees call (Bytes.ofText what ++ Quoting.name path) else return true

def removeEntry (place : Place) : Proc Unit :=
  Proc.change fun _ kernel => kernel.removeBelow place

def removeNode (call : Call) (removing : Removing) (path : Bytes) (place : Place) (node : Node) :
    Proc Nat := do
  let (what, told) :=
    match node with
    | .directory => ("remove directory ", "removed directory ")
    | .file [] _ => ("remove regular empty file ", "removed ")
    | .file .. => ("remove regular file ", "removed ")
  if ← mayRemove call removing what path then
    removeEntry place
    if removing.isTold then sayLine call (Bytes.ofText told ++ Quoting.name path)
  return 0

def removeTree (call : Call) (removing : Removing) :
    (depth : Nat) → Bytes → Place → Node → Proc Nat
  | 0, _, _, _ => return 1
  | depth + 1, path, place, node => do
      match node with
      | .file .. => removeNode call removing path place node
      | .directory => do
          let names ← Proc.ask fun _ kernel => kernel.tree.children place
          let enters ←
            if names.isEmpty then pure true
            else mayRemove call removing "descend into directory " path
          if enters then
            let status ← forEach
              (fun name => do
                match ← Proc.ask fun _ kernel => kernel.tree.get? (place ++ [name]) with
                | some inner =>
                    removeTree call removing depth (below path name) (place ++ [name]) inner
                | none => return 0)
              names
            let left ← Proc.ask fun _ kernel => kernel.tree.children place
            if left.isEmpty then
              return worse status (← removeNode call removing path place node)
            else return status
          else return 0

def namesItself (path : Bytes) : Bool :=
  let last := ((Path.segments ⟨path⟩).filter fun segment => !segment.isEmpty).getLast?
  last == some Path.here || last == some Path.up

def removePath (call : Call) (removing : Removing) (path : Bytes) : Proc Nat := do
  match ← Proc.ask fun number kernel => kernel.look number path with
  | .error error =>
      let isAbsent := error = .noEntry || error = .notDirectory
      if removing.isForced && isAbsent then return 0 else removeFailure call path error
  | .ok (place, node) =>
      let isEmpty ← Proc.ask fun _ kernel => (kernel.tree.children place).isEmpty
      match node with
      | .file .. => removeNode call removing path place node
      | .directory =>
          if !removing.descends && !removing.takesEmpty then removeFailure call path .isDirectory
          else if namesItself path then
            complain call
              (Bytes.ofText "refusing to remove '.' or '..' directory: skipping " ++
                Quoting.name path)
            return 1
          else if place.isEmpty then
            complainText call "it is dangerous to operate recursively on '/'"
            complainText call "use --no-preserve-root to override this failsafe"
            return 1
          else if removing.descends then removeTree call removing depthLimit path place node
          else if isEmpty then removeNode call removing path place node
          else removeFailure call path .notEmpty

def removeTable : Options.Table :=
  { letters := Options.plain "dfiIrRv"
    names := [{ name := "dir", letter := 'd' }, { name := "force", letter := 'f' },
      { name := "recursive", letter := 'r' }, { name := "verbose", letter := 'v' },
      { name := "interactive", operand := .optional, letter := 'i' },
      { name := "preserve-root", operand := .optional, letter := '0' },
      { name := "one-file-system", letter := '1' }] }

def questionFor (descends : Bool) (count : Nat) : Bytes :=
  let arguments := if count = 1 then " argument" else " arguments"
  Bytes.ofText ("remove " ++ toString count ++ arguments ++
    (if descends then " recursively" else ""))

def removeFiles : Program := fun call =>
  Options.withOptions call removeTable 1 fun given words => do
    let last := (Options.last? ['f', 'i', 'I'] given).map Options.Given.letter
    let removing : Removing :=
      { isForced := last == some 'f', descends := Options.has 'r' given || Options.has 'R' given
        takesEmpty := Options.has 'd' given, isTold := Options.has 'v' given
        asks := last == some 'i' }
    if words.isEmpty then
      if removing.isForced then return 0 else refuseText call 1 "missing operand"
    else
      let asksOnce := last == some 'I' && (removing.descends || 3 < words.length)
      let goesOn ←
        if asksOnce then agrees call (questionFor removing.descends words.length) else pure true
      if goesOn then forEach (removePath call removing) words else return 0

def touchFile (call : Call) (makes isLenient : Bool) (stamp : Option Nat) (path : Bytes) :
    Proc Nat := do
  let failure (what : String) (error : OsError) : Proc Nat := do
    complain call (Bytes.ofText what ++ Quoting.name path ++ Bytes.ofText (": " ++ reason error))
    return 1
  let opened ← Proc.attempt fun number kernel =>
    if !makes then .ok kernel
    else
      match (kernel.treeOf number).openPlace ⟨path⟩ with
      | .error error => .error error
      | .ok place =>
          .ok <| match kernel.tree.get? place with
            | some _ => kernel
            | none => { kernel with tree := kernel.tree.put place (.file [] false) }
  let found ← Proc.ask fun number kernel => kernel.look number path
  match opened, found with
  | _, .ok (place, _) => do
      Proc.change fun _ kernel =>
        { kernel with
          stamps := Kernel.setKey kernel.stamps place
            (stamp.getD (kernel.clock / Kernel.stampSpan)) }
      return 0
  | .error error, .error missing =>
      if error = .isDirectory then failure "setting times of " missing
      else failure "cannot touch " error
  | .ok _, .error missing =>
      if missing = .noEntry && isLenient then return 0 else failure "setting times of " missing

def touchTable : Options.Table :=
  { letters := Options.plain "acfhm" ++ [('d', .required), ('r', .required), ('t', .required)]
    names := [{ name := "no-create", letter := 'c' },
      { name := "no-dereference", letter := 'h' },
      { name := "date", operand := .required, letter := 'd' },
      { name := "reference", operand := .required, letter := 'r' },
      { name := "time", operand := .required, letter := 'T' }] }

/-- The time that files are to get, if it is another one than now. One that is given by its name is
taken to be before all others. -/
def stampOf (given : List Options.Given) : Proc (Except Bytes (Option Nat)) := do
  match Options.word? 'r' given with
  | some path =>
      Proc.ask fun number kernel =>
        match kernel.look number path with
        | .ok (place, _) => .ok (some ((kernel.stamps.lookup place).getD 0))
        | .error error =>
            .error (Bytes.ofText "failed to get attributes of " ++ Quoting.name path ++
              Bytes.ofText (": " ++ reason error))
  | none => return .ok (if Options.has 'd' given || Options.has 't' given then some 0 else none)

def touch : Program := fun call =>
  Options.withOptions call touchTable 1 fun given words => do
    match ← stampOf given with
    | .error message =>
        complain call message
        return 1
    | .ok stamp =>
        if words.isEmpty then refuseText call 1 "missing file operand"
        else
          let makes := !Options.has 'c' given && !Options.has 'h' given
          let action (path : Bytes) : Proc Nat :=
            if path = [0x2D] then return 0
            else touchFile call makes (Options.has 'c' given) stamp path
          forEach action words

end CompilerDriver.Machine.Program
