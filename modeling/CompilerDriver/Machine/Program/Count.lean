import CompilerDriver.Machine.Program.Concatenate

/-!
Counting the lines, words and bytes of files. The counts stand in columns that are wide enough for
the sizes of all files together.
-/

namespace CompilerDriver.Machine.Program.Count

open Kernel (Proc)

structure Tally where
  lines : Nat := 0
  words : Nat := 0
  bytes : Nat := 0
  /-- The width of the widest line. -/
  width : Nat := 0
  isInWord : Bool := false
  /-- The width of the line that is being read. -/
  column : Nat := 0

def isSpace (byte : UInt8) : Bool :=
  byte = 0x20 || 0x09 ≤ byte && byte ≤ 0x0D

def Tally.count (tally : Tally) (byte : UInt8) : Tally :=
  let column :=
    if byte = 0x09 then tally.column + (8 - tally.column % 8)
    else if byte = 0x0A || byte = 0x0C || byte = 0x0D then 0
    else if Quoting.isPrintable byte then tally.column + 1
    else tally.column
  { lines := if byte = 0x0A then tally.lines + 1 else tally.lines
    words := if !isSpace byte && !tally.isInWord then tally.words + 1 else tally.words
    bytes := tally.bytes + 1
    width := max tally.width column
    isInWord := !isSpace byte
    column := column }

def Tally.add (one other : Tally) : Tally :=
  { lines := one.lines + other.lines, words := one.words + other.words
    bytes := one.bytes + other.bytes, width := max one.width other.width }

structure Shown where
  lines : Bool := false
  words : Bool := false
  characters : Bool := false
  bytes : Bool := false
  width : Bool := false

def Shown.columns (shown : Shown) (tally : Tally) : List Nat :=
  (if shown.lines then [tally.lines] else []) ++ (if shown.words then [tally.words] else []) ++
    (if shown.characters then [tally.bytes] else []) ++
    (if shown.bytes then [tally.bytes] else []) ++ (if shown.width then [tally.width] else [])

def row (shown : Shown) (width : Nat) (tally : Tally) (name : Option Bytes) : Bytes :=
  let columns := (shown.columns tally).map fun value => padded width (toString value)
  Path.joinWith 0x20 (columns ++ name.toList) ++ [0x0A]

/-- The size of what a name leads to, if it is a file. Nothing when it leads nowhere. -/
def sizeOf (kernel : Kernel) (number : Nat) (file : Bytes) : Option (Option Nat) :=
  if Input.isStandard file then
    match kernel.stream? number 0 with
    | some (_, .file place _ _) => some (some (kernel.contents place).length)
    | some _ => some none
    | none => none
  else
    match kernel.look number file with
    | .error _ => none
    | .ok (_, .directory) => some none
    | .ok (place, .file bytes _) =>
        if (Kernel.deviceAt? place).isSome || (Kernel.channelAt? place).isSome then some none
        else some (some bytes.length)

def widthFor (isSingle : Bool) (sizes : List (Option (Option Nat))) : Nat :=
  match isSingle, sizes with
  | true, _ | _, none :: _ => 1
  | _, _ =>
      let known := sizes.filterMap id
      let total := (known.filterMap id).foldl (· + ·) 0
      let least := if known.any Option.isNone then 7 else 1
      max least (toString total).length

def countFile (call : Call) (shown : Shown) (width : Nat) (name : Option Bytes) (file : Bytes) :
    Proc (Tally × Nat) := do
  match ← Input.opened file with
  | .error error =>
      complainOf call (Quoting.nameIfNeeded file) error
      return ({}, 1)
  | .ok channel =>
      let start : Tally := {}
      let (tally, ending) ← Input.stream channel start fun tally piece =>
        { state := piece.foldl Tally.count tally, output := [] }
      Input.close channel
      let status ←
        match ending with
        | .unread error => do
            let title :=
              match name with
              | some name => Quoting.nameIfNeeded name
              | none => Quoting.name (Bytes.ofText "standard input")
            complainOf call title error
            pure 1
        | _ => pure 0
      let failed ← printRow (row shown width tally name)
      return (tally, worse status failed)
where
  printRow (bytes : Bytes) : Proc Nat := do
    match ← Proc.write 1 bytes with
    | .ok _ => return 0
    | .error _ =>
        complainText call "write error"
        Proc.exit 1

def countAll (call : Call) (shown : Shown) (width : Nat) : (total : Tally) → List Bytes →
    Proc (Tally × Nat)
  | total, [] => return (total, 0)
  | total, file :: rest => do
      let (tally, status) ← countFile call shown width (some file) file
      let (sum, other) ← countAll call shown width (total.add tally) rest
      return (sum, worse status other)

def table : Options.Table :=
  { letters := Options.plain "clmwL"
    names := [{ name := "bytes", letter := 'c' }, { name := "chars", letter := 'm' },
      { name := "lines", letter := 'l' }, { name := "words", letter := 'w' },
      { name := "max-line-length", letter := 'L' }] }

def program : Program := fun call =>
  Options.withOptions call table 1 fun given words => do
    let has (letter : Char) : Bool := Options.has letter given
    let asked : Shown :=
      { lines := has 'l', words := has 'w', characters := has 'm', bytes := has 'c'
        width := has 'L' }
    let shown : Shown :=
      if given.isEmpty then { lines := true, words := true, bytes := true } else asked
    let files := orStandard words
    let sizes ← Proc.ask fun number kernel => files.map (sizeOf kernel number)
    let isSingle := files.length = 1 && (shown.columns {}).length = 1
    let width := widthFor isSingle sizes
    let status ←
      if words.isEmpty then do
        let (_, status) ← countFile call shown width none [0x2D]
        pure status
      else do
        let (total, status) ← countAll call shown width {} files
        if 1 < files.length then
          writeOrEnd (row shown width total (some (Bytes.ofText "total")))
        pure status
    checkStandard call files "-: Bad file descriptor" status
where
  writeOrEnd (bytes : Bytes) : Proc Unit := do
    let _ ← Proc.write 1 bytes

end CompilerDriver.Machine.Program.Count
