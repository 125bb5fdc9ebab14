import CompilerDriver.Machine.Program.Input

/-!
Programs that put files one behind the other or side by side: as they are, with their lines numbered
or made visible, backwards, or to several places at once.
-/

namespace CompilerDriver.Machine.Program

open Kernel (Proc)

/-- What becomes of the bytes of a text that is shown. -/
structure Look where
  numbersAll : Bool := false
  numbersFilled : Bool := false
  squeezes : Bool := false
  showsEnds : Bool := false
  showsTabs : Bool := false
  showsOthers : Bool := false

def Look.isPlain (look : Look) : Bool :=
  !(look.numbersAll || look.numbersFilled || look.squeezes || look.showsEnds || look.showsTabs ||
    look.showsOthers)

def padded (width : Nat) (text : String) : Bytes :=
  List.replicate (width - text.length) 0x20 ++ Bytes.ofText text

/-- A byte as it is shown: with a caret in front of the letter for a control, and a mark in front of
the upper half. -/
def visible (byte : UInt8) : Bytes :=
  let (mark, low) := if byte < 0x80 then ([], byte) else ([0x4D, 0x2D], byte - 0x80)
  mark ++
    (if low < 0x20 then [0x5E, low + 0x40] else if low = 0x7F then [0x5E, 0x3F] else [low])

def Look.shown (look : Look) (byte : UInt8) : Bytes :=
  if byte = 0x09 then if look.showsTabs then [0x5E, 0x49] else [byte]
  else if look.showsOthers then visible byte
  else [byte]

/-- The lines so far: how many were numbered, how many empty ones came last, and whether a line has
begun. -/
structure Numbering where
  count : Nat := 0
  empty : Nat := 0
  hasBegun : Bool := false

def numberShown (number : Nat) : Bytes :=
  padded 6 (toString number) ++ [0x09]

def Look.line (look : Look) (state : Numbering) (line : Bytes) : Numbering × Bytes :=
  let hasEnd := line.getLast? == some 0x0A
  let content := Input.bare 0x0A line
  let isEmpty := content.isEmpty && !state.hasBegun
  let empty := if isEmpty then state.empty + 1 else 0
  if isEmpty && look.squeezes && 2 ≤ empty then ({ state with empty := empty }, [])
  else
    let isNumbered :=
      !state.hasBegun && (look.numbersFilled && !isEmpty || look.numbersAll && !look.numbersFilled)
    let count := if isNumbered then state.count + 1 else state.count
    let front := if isNumbered then numberShown count else []
    let returns := hasEnd && look.showsEnds && content.getLast? == some 0x0D
    let middle :=
      if returns then content.dropLast.flatMap look.shown ++ [0x5E, 0x4D]
      else content.flatMap look.shown
    let ending : Bytes := if !hasEnd then [] else if look.showsEnds then [0x24, 0x0A] else [0x0A]
    ({ count := count, empty := empty, hasBegun := !hasEnd }, front ++ middle ++ ending)

def feedsItself (channel : Nat) : Proc Bool :=
  Proc.ask fun number kernel =>
    match kernel.stream? number channel, kernel.stream? number 1 with
    | some (_, .file place offset _), some (_, .file other end_ access) =>
        place == other &&
          (if access.appends then offset < (kernel.contents place).length else offset < end_)
    | _, _ => false

/-- Says how reading a file went. Nobody goes on who cannot write. -/
def settleReading (call : Call) (file : Bytes) : Input.Ending → Proc Nat
  | .done => return 0
  | .unread error => do
      complainOf call (Quoting.nameIfNeeded file) error
      return 1
  | .unwritten error => do
      complainText call ("write error: " ++ reason error)
      Proc.exit 1

def copyChannel (call : Call) (look : Look) (file : Bytes) (channel : Nat) (state : Numbering) :
    Proc (Numbering × Nat) := do
  if look.isPlain then
    let (_, ending) ← Input.stream channel () fun _ piece => { state := (), output := piece }
    return (state, ← settleReading call file ending)
  else
    let (next, ending) ← Input.streamLines 0x0A channel state look.line
    return (next, ← settleReading call file ending)

def copyFiles (call : Call) (look : Look) : (state : Numbering) → List Bytes → Proc Nat
  | _, [] => return 0
  | state, file :: rest => do
      match ← Input.opened file with
      | .error error =>
          complainOf call (Quoting.nameIfNeeded file) error
          return worse 1 (← copyFiles call look state rest)
      | .ok channel =>
          if ← feedsItself channel then
            complain call (Quoting.nameIfNeeded file ++ Bytes.ofText ": input file is output file")
            Input.close channel
            return worse 1 (← copyFiles call look state rest)
          else
            let (next, status) ← copyChannel call look file channel state
            Input.close channel
            return worse status (← copyFiles call look next rest)

def concatenateTable : Options.Table :=
  { letters := Options.plain "benstuvAET"
    names :=
      [{ name := "number-nonblank", letter := 'b' }, { name := "number", letter := 'n' },
       { name := "squeeze-blank", letter := 's' }, { name := "show-nonprinting", letter := 'v' },
       { name := "show-ends", letter := 'E' }, { name := "show-tabs", letter := 'T' },
       { name := "show-all", letter := 'A' }] }

def isOpenNow (channel : Nat) : Proc Bool :=
  Proc.ask fun number kernel => kernel.isOpen number channel

def checkStandard (call : Call) (files : List Bytes) (message : String) (status : Nat) :
    Proc Nat := do
  if files.any Input.isStandard && !(← isOpenNow 0) then
    complainText call message
    return worse status 1
  else return status

def orStandard (files : List Bytes) : List Bytes :=
  if files.isEmpty then [[0x2D]] else files

def concatenate : Program := fun call =>
  Options.withOptions call concatenateTable 1 fun given words => do
    let has (letters : String) : Bool := letters.toList.any fun letter => Options.has letter given
    let look : Look :=
      { numbersAll := has "n", numbersFilled := has "b", squeezes := has "s"
        showsEnds := has "eEA", showsTabs := has "tTA", showsOthers := has "vetA" }
    if !(← isOpenNow 1) then
      complainOf call (Bytes.ofText "standard output") .badChannel
      return 1
    else
      let files := orStandard words
      let status ← copyFiles call look {} files
      checkStandard call files "closing standard input: Bad file descriptor" status

def gather (complaint : Bytes → Bool → OsError → Proc Unit) : List Bytes → Proc (List Bytes × Nat)
  | [] => return ([], 0)
  | file :: rest => do
      match ← Input.all file with
      | .error error =>
          complaint file false error
          let (texts, _) ← gather complaint rest
          return (texts, 1)
      | .ok (text, some error) =>
          complaint file true error
          let (texts, _) ← gather complaint rest
          return (text :: texts, 1)
      | .ok (text, none) =>
          let (texts, status) ← gather complaint rest
          return (text :: texts, status)

def backwards : Program := fun call =>
  Options.withOptions call {} 1 fun _ words => do
    let complaint (file : Bytes) (isOpen : Bool) (error : OsError) : Proc Unit :=
      if !isOpen then
        complain call
          (Bytes.ofText "failed to open " ++ Quoting.name file ++
            Bytes.ofText (" for reading: " ++ reason error))
      else if error = .isDirectory then
        complain call (Quoting.nameIfNeeded file ++ Bytes.ofText ": read error: Invalid argument")
      else
        complain call
          (Quoting.nameIfNeeded (Input.title file) ++
            Bytes.ofText (": read error: " ++ reason error))
    let (texts, status) ← gather complaint (orStandard words)
    printAll call (texts.flatMap fun text => (Input.linesOf 0x0A text).reverse.flatten) status

def mirrored : Program := fun call =>
  Options.withOptions call {} 1 fun _ words => do
    let complaint (file : Bytes) (isOpen : Bool) (error : OsError) : Proc Unit :=
      if isOpen then complainOf call file error
      else
        complain call
          (Bytes.ofText "cannot open " ++ file ++ Bytes.ofText (": " ++ reason error))
    let (texts, status) ← gather complaint (orStandard words)
    let turned (line : Bytes) : Bytes :=
      (Input.bare 0x0A line).reverse ++ if line.getLast? = some 0x0A then [0x0A] else []
    printAll call (texts.flatMap fun text => (Input.linesOf 0x0A text).flatMap turned) status

inductive Numbered where
  | all
  | filled
  | none
  deriving DecidableEq

def Numbered.ofWord? : Bytes → Option Numbered
  | [0x61] => some .all
  | [0x74] => some .filled
  | [0x6E] => some .none
  | _ => Option.none

structure NumberStyle where
  which : Numbered := .filled
  width : Nat := 6
  start : Int := 1
  increment : Int := 1
  separator : Bytes := [0x09]
  /-- How the number stands in its column: `ln`, `rn` or `rz`. -/
  alignment : Bytes := Bytes.ofText "rn"

def decimalText (value : Int) : String :=
  toString value

def NumberStyle.number (style : NumberStyle) (value : Int) : Bytes :=
  let text := decimalText value
  if style.alignment = Bytes.ofText "ln" then
    Bytes.ofText text ++ List.replicate (style.width - text.length) 0x20
  else if style.alignment = Bytes.ofText "rz" then
    let digits := toString value.natAbs
    let sign := if value < 0 then "-" else ""
    Bytes.ofText sign ++ List.replicate (style.width - digits.length - sign.length) 0x30 ++
      Bytes.ofText digits
  else padded style.width text

def NumberStyle.line (style : NumberStyle) (next : Int) (line : Bytes) : Int × Bytes :=
  let content := Input.bare 0x0A line
  let counts :=
    match style.which with
    | .all => true
    | .filled => !content.isEmpty
    | .none => false
  if counts then
    (next + style.increment, style.number next ++ style.separator ++ content ++ [0x0A])
  else
    (next, List.replicate (style.width + style.separator.length) 0x20 ++ content ++ [0x0A])

def integer? (word : Bytes) : Option Int :=
  let (negative, digits) :=
    match word with
    | 0x2D :: rest => (true, rest)
    | 0x2B :: rest => (false, rest)
    | rest => (false, rest)
  if digits.isEmpty then none
  else
    ((shown digits).toNat?).map fun value => if negative then -(value : Int) else (value : Int)

def numberLines (call : Call) (style : NumberStyle) : (next : Int) → List Bytes → Proc Nat
  | _, [] => return 0
  | next, file :: rest => do
      match ← Input.opened file with
      | .error error =>
          complainOf call (Quoting.nameIfNeeded file) error
          return worse 1 (← numberLines call style next rest)
      | .ok channel =>
          let (after, ending) ← Input.streamLines 0x0A channel next style.line
          Input.close channel
          let status ← settleReading call file ending
          return worse status (← numberLines call style after rest)

def numbered : Program := fun call =>
  let table : Options.Table :=
    { letters := [('b', .required), ('w', .required), ('v', .required), ('i', .required),
        ('s', .required), ('n', .required), ('p', .none)]
      names := [{ name := "body-numbering", operand := .required, letter := 'b' },
        { name := "number-width", operand := .required, letter := 'w' },
        { name := "starting-line-number", operand := .required, letter := 'v' },
        { name := "line-increment", operand := .required, letter := 'i' },
        { name := "number-separator", operand := .required, letter := 's' },
        { name := "number-format", operand := .required, letter := 'n' },
        { name := "no-renumber", letter := 'p' }] }
  Options.withOptions call table 1 fun given words => do
    let word (letter : Char) (standard : String) : Bytes :=
      (Options.word? letter given).getD (Bytes.ofText standard)
    match Numbered.ofWord? (word 'b' "t"), integer? (word 'w' "6"), integer? (word 'v' "1"),
        integer? (word 'i' "1") with
    | none, _, _, _ =>
        refuse call 1 (Bytes.ofText "invalid body numbering style: " ++ Quoting.word (word 'b' ""))
    | _, none, _, _ =>
        complain call
          (Bytes.ofText "invalid line number field width: " ++ Quoting.word (word 'w' ""))
        return 1
    | _, _, none, _ =>
        complain call (Bytes.ofText "invalid starting line number: " ++ Quoting.word (word 'v' ""))
        return 1
    | _, _, _, none =>
        complain call (Bytes.ofText "invalid line number increment: " ++ Quoting.word (word 'i' ""))
        return 1
    | some which, some width, some start, some increment =>
        let style : NumberStyle :=
          { which := which, width := width.toNat, start := start, increment := increment
            separator := word 's' "\t", alignment := word 'n' "rn" }
        numberLines call style start (orStandard words)

def openOutputs (call : Call) (opening : Kernel.Opening) :
    List Bytes → Proc (List (Bytes × Nat) × Nat)
  | [] => return ([], 0)
  | file :: rest => do
      let opened ← Proc.act fun number kernel =>
        let channel := kernel.unused number 3
        match kernel.openFile number channel file opening with
        | .ok next => ((.ok channel : Except OsError Nat), next)
        | .error error => (.error error, kernel)
      match opened with
      | .error error =>
          complainOf call (Quoting.nameIfNeeded file) error
          let (outputs, _) ← openOutputs call opening rest
          return (outputs, 1)
      | .ok channel =>
          let (outputs, status) ← openOutputs call opening rest
          return ((file, channel) :: outputs, status)

def writeToAll (call : Call) (piece : Bytes) : List (Bytes × Nat) → Proc (List (Bytes × Nat) × Nat)
  | [] => return ([], 0)
  | (file, channel) :: rest => do
      match ← Proc.write channel piece with
      | .ok _ =>
          let (outputs, status) ← writeToAll call piece rest
          return ((file, channel) :: outputs, status)
      | .error error =>
          complainOf call (Quoting.nameIfNeeded file) error
          let (outputs, _) ← writeToAll call piece rest
          return (outputs, 1)

def distribute (call : Call) : (steps : Nat) → List (Bytes × Nat) → Nat → Proc Nat
  | 0, _, status => return status
  | steps + 1, outputs, status => do
      if outputs.isEmpty then return status
      else
        match ← Proc.read 0 Proc.pieceSize with
        | .error error =>
            complainOf call (Bytes.ofText "read error") error
            return 1
        | .ok [] => return status
        | .ok piece =>
            let (left, failed) ← writeToAll call piece outputs
            distribute call steps left (worse status failed)

def tee : Program := fun call =>
  let table : Options.Table :=
    { letters := Options.plain "aip"
      names := [{ name := "append", letter := 'a' },
        { name := "ignore-interrupts", letter := 'i' }] }
  Options.withOptions call table 1 fun given words => do
    let opening : Kernel.Opening := if Options.has 'a' given then .append else .output
    let (outputs, failed) ← openOutputs call opening words
    let all := (Bytes.ofText "standard output", 1) :: outputs
    let status ← distribute call Proc.readLimit all failed
    checkStandard call [[0x2D]] "standard input: Bad file descriptor" status

/-- The separators between columns, with their escapes replaced. An empty one separates nothing. -/
def separatorsOf : Bytes → List Bytes
  | [] => []
  | 0x5C :: letter :: rest =>
      let meaning : Bytes :=
        match Char.ofNat letter.toNat with
        | 'n' => [0x0A]
        | 't' => [0x09]
        | '0' => []
        | 'b' => [0x08]
        | 'f' => [0x0C]
        | 'r' => [0x0D]
        | 'v' => [0x0B]
        | _ => [letter]
      meaning :: separatorsOf rest
  | byte :: rest => [byte] :: separatorsOf rest

def separatorAt (separators : List Bytes) (position : Nat) : Bytes :=
  match separators with
  | [] => []
  | _ => separators.getD (position % separators.length) []

def joined (separators : List Bytes) : (position : Nat) → List Bytes → Bytes
  | _, [] => []
  | _, [last] => last
  | position, first :: rest =>
      first ++ separatorAt separators position ++ joined separators (position + 1) rest

def dealt (count : Nat) (index : Nat) (lines : List Bytes) : List Bytes :=
  (lines.zipIdx.filter fun entry => entry.2 % count == index).map Prod.fst

/-- The columns of files. Standard input is dealt out to all places where it is named. -/
def columnsOf (words : List Bytes) (standard : List Bytes) (texts : List (Bytes × List Bytes)) :
    List (List Bytes) :=
  let count := (words.filter Input.isStandard).length
  (words.zipIdx.map fun (word, position) =>
    if Input.isStandard word then
      dealt count ((words.take position).filter Input.isStandard).length standard
    else (texts.lookup word).getD [])

def paste : Program := fun call =>
  let table : Options.Table :=
    { letters := [('d', .required), ('s', .none), ('z', .none)]
      names := [{ name := "delimiters", operand := .required, letter := 'd' },
        { name := "serial", letter := 's' }, { name := "zero-terminated", letter := 'z' }] }
  Options.withOptions call table 1 fun given words => do
    let ending : UInt8 := if Options.has 'z' given then 0 else 0x0A
    let separators := separatorsOf ((Options.word? 'd' given).getD [0x09])
    let files := orStandard words
    let complaint (file : Bytes) (_ : Bool) (error : OsError) : Proc Unit :=
      complainOf call (Quoting.nameIfNeeded file) error
    if Options.has 's' given then
      let (texts, status) ← gather complaint files
      let row (text : Bytes) : Bytes :=
        joined separators 0 (Input.bareLines ending text) ++ [ending]
      printAll call (texts.flatMap row) status
    else
      let named := files.eraseDups
      let (texts, status) ← gather complaint named
      if status != 0 then return status
      else
        let contents := named.zip (texts.map (Input.bareLines ending))
        let columns := columnsOf files ((contents.lookup [0x2D]).getD []) contents
        let height := (columns.map List.length).foldl max 0
        let row (index : Nat) : Bytes :=
          joined separators 0 (columns.map fun column => column.getD index []) ++ [ending]
        printAll call ((List.range height).flatMap row) status

end CompilerDriver.Machine.Program
