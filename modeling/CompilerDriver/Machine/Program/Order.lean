import CompilerDriver.Machine.Floating
import CompilerDriver.Machine.Program.Portion

/-!
Putting lines in order, by all of a line or by keys in it, and dropping lines that are equal to the
one before them.
-/

namespace CompilerDriver.Machine.Program.Order

open Kernel (Proc)

inductive Manner where
  | bytes
  | numbers
  | measures
  | sizes
  | months
  deriving DecidableEq, Inhabited

structure Style where
  manner : Manner := .bytes
  folds : Bool := false
  onlyWords : Bool := false
  onlyPrintable : Bool := false
  skipsBlanks : Bool := false
  isReversed : Bool := false
  deriving DecidableEq, Inhabited

def isBlank (byte : UInt8) : Bool :=
  byte = 0x20 || byte = 0x09

def upper (byte : UInt8) : UInt8 :=
  if 0x61 ≤ byte && byte ≤ 0x7A then byte - 0x20 else byte

def Style.bytesOf (style : Style) (text : Bytes) : Bytes :=
  let isWord (byte : UInt8) : Bool :=
    isBlank byte || byte < 0x80 && (Char.ofNat byte.toNat).isAlphanum
  let kept := text.filter fun byte =>
    (!style.onlyWords || isWord byte) && (!style.onlyPrintable || Quoting.isPrintable byte)
  if style.folds then kept.map upper else kept

/-- A number at the front of a text, as a count of the smallest part and how many of these make
one. -/
structure Leading where
  value : Int := 0
  places : Nat := 0
  rest : Bytes := []

def leadingOf (text : Bytes) : Leading :=
  let bare := text.dropWhile isBlank
  let (negative, unsigned) :=
    match bare with
    | 0x2D :: rest => (true, rest)
    | rest => (false, rest)
  let (whole, behind) := unsigned.span Amount.isDigit
  let (fraction, rest) :=
    match behind with
    | 0x2E :: more => more.span Amount.isDigit
    | more => ([], more)
  let size : Int := Amount.digitsValue (whole ++ fraction)
  { value := if negative then -size else size, places := fraction.length, rest := rest }

def compareLeading (left right : Leading) : Ordering :=
  compare (left.value * (Nat.pow 10 right.places : Nat))
    (right.value * (Nat.pow 10 left.places : Nat))

def sizeRank (amount : Leading) : Int :=
  let rank : Nat :=
    match amount.rest with
    | byte :: _ => (Amount.power? (Char.ofNat byte.toNat)).getD 0
    | [] => 0
  if amount.value < 0 then -(rank : Int) else if amount.value = 0 then 0 else rank

def monthNames : List String :=
  ["JAN", "FEB", "MAR", "APR", "MAY", "JUN", "JUL", "AUG", "SEP", "OCT", "NOV", "DEC"]

def monthOf (text : Bytes) : Nat :=
  let start := ((text.dropWhile isBlank).take 3).map upper
  ((monthNames.findIdx? fun name => Bytes.ofText name == start).map (· + 1)).getD 0

/-- How a text stands to a measure: no number at all, not a number, or a number. -/
inductive Measured where
  | unreadable
  | undefined
  | least
  | amount (amount : Leading)
  | greatest

def Measured.rank : Measured → Nat
  | .unreadable => 0
  | .undefined => 1
  | .least => 2
  | .amount _ => 3
  | .greatest => 4

def measuredOf (text : Bytes) : Measured :=
  match Floating.read? (text.map fun byte => Char.ofNat byte.toNat) with
  | none => .unreadable
  | some reading =>
      match reading.value with
      | .finite negative size =>
          let signed : Int := if negative then -(size.numerator : Int) else size.numerator
          .amount { value := signed, places := size.denominator }
      | .infinite negative => if negative then .least else .greatest
      | _ => .undefined

def compareMeasured (left right : Measured) : Ordering :=
  match left, right with
  | .amount one, .amount other => compare (one.value * other.places) (other.value * one.places)
  | _, _ => compare left.rank right.rank

def compareBytes (left right : Bytes) : Ordering :=
  if left = right then .eq else if FileTree.bytesLe left right then .lt else .gt

def Style.compare (style : Style) (left right : Bytes) : Ordering :=
  let ordering :=
    match style.manner with
    | .bytes => compareBytes (style.bytesOf left) (style.bytesOf right)
    | .numbers => compareLeading (leadingOf left) (leadingOf right)
    | .measures => compareMeasured (measuredOf left) (measuredOf right)
    | .sizes =>
        let one := leadingOf left
        let other := leadingOf right
        (Ord.compare (sizeRank one) (sizeRank other)).then (compareLeading one other)
    | .months => Ord.compare (monthOf left) (monthOf right)
  if style.isReversed then ordering.swap else ordering

/-- One end of a key: a field counted from one, and a byte in it. As the end of a key, byte zero is
the end of the field. -/
structure Position where
  field : Nat
  byte : Nat
  skipsBlanks : Bool := false
  deriving Inhabited

structure Key where
  start : Position
  stop : Option Position := none
  style : Style := {}
  deriving Inhabited

def endOfField (tab : Option UInt8) (text : Bytes) : Nat :=
  match tab with
  | some separator => (text.takeWhile (· != separator)).length
  | none =>
      let blanks := (text.takeWhile isBlank).length
      blanks + ((text.drop blanks).takeWhile fun byte => !isBlank byte).length

def startOfField (tab : Option UInt8) : (fields : Nat) → (text : Bytes) → Nat
  | 0, _ => 0
  | fields + 1, text =>
      let length := endOfField tab text
      let passed := if tab.isSome && length < text.length then length + 1 else length
      if passed = 0 then 0 else passed + startOfField tab fields (text.drop passed)

def blanksAt (skips : Bool) (text : Bytes) (offset : Nat) : Nat :=
  if skips then offset + ((text.drop offset).takeWhile isBlank).length else offset

def Key.partOf (key : Key) (tab : Option UInt8) (line : Bytes) : Bytes :=
  let field := startOfField tab (key.start.field - 1) line
  let start := min line.length
    (blanksAt key.start.skipsBlanks line field + (key.start.byte - 1))
  let stop :=
    match key.stop with
    | none => line.length
    | some position =>
        if position.byte = 0 then
          let begun := startOfField tab (position.field - 1) line
          begun + endOfField tab (line.drop begun)
        else
          let begun := startOfField tab (position.field - 1) line
          min line.length (blanksAt position.skipsBlanks line begun + position.byte)
  (line.take stop).drop start

structure Request where
  keys : List Key
  style : Style
  tab : Option UInt8 := none
  isStable : Bool := false
  isUnique : Bool := false

def compareKeys (tab : Option UInt8) (left right : Bytes) : List Key → Ordering
  | [] => .eq
  | key :: rest =>
      (key.style.compare (key.partOf tab left) (key.partOf tab right)).then
        (compareKeys tab left right rest)

/-- How two lines stand to each other. Lines that are equal by their keys are told apart as a whole,
unless they are to be kept as they are. -/
def Request.compare (request : Request) (left right : Bytes) : Ordering :=
  let byKeys :=
    if request.keys.isEmpty then request.style.compare left right
    else compareKeys request.tab left right request.keys
  let asWhole := compareBytes left right
  if request.isStable || request.isUnique then byKeys
  else byKeys.then (if request.style.isReversed then asWhole.swap else asWhole)

def Request.sort (request : Request) (lines : List Bytes) : List Bytes :=
  lines.mergeSort fun left right => request.compare left right != .gt

def dropRepeated (isSame : Bytes → Bytes → Bool) (lines : List Bytes) : List Bytes :=
  let step (kept : List Bytes) (line : Bytes) : List Bytes :=
    match kept with
    | last :: _ => if isSame last line then kept else line :: kept
    | [] => [line]
  (lines.foldl step []).reverse

def Request.disorder? (request : Request) : (number : Nat) → List Bytes → Option (Nat × Bytes)
  | number, first :: second :: rest =>
      let ordering := request.compare first second
      if ordering == .gt || request.isUnique && ordering == .eq then some (number + 1, second)
      else request.disorder? (number + 1) (second :: rest)
  | _, _ => none

def Style.set (style : Style) (letter : Char) : Option Style :=
  match letter with
  | 'd' => some { style with onlyWords := true }
  | 'f' => some { style with folds := true }
  | 'g' => some { style with manner := .measures }
  | 'h' => some { style with manner := .sizes }
  | 'i' => some { style with onlyPrintable := true }
  | 'M' => some { style with manner := .months }
  | 'n' => some { style with manner := .numbers }
  | 'r' => some { style with isReversed := true }
  | 'b' => some { style with skipsBlanks := true }
  | _ => none

/-- The letters behind a position. What they say of blanks is kept apart. -/
def takeStyle (style : Style) : Bytes → Style × Bool × Bytes
  | [] => (style, false, [])
  | byte :: rest =>
      let letter := Char.ofNat byte.toNat
      if letter == 'b' then
        let (next, _, left) := takeStyle style rest
        (next, true, left)
      else
        match style.set letter with
        | some next => takeStyle next rest
        | none => (style, false, byte :: rest)

def numberAt (what : String) (text : Bytes) : Except Bytes (Nat × Bytes) :=
  let (digits, rest) := text.span Amount.isDigit
  if digits.isEmpty then
    .error (Bytes.ofText (what ++ ": invalid count at start of ") ++ Quoting.word text)
  else .ok (Amount.digitsValue digits, rest)

def fieldError (what : String) (word : Bytes) : Bytes :=
  Bytes.ofText (what ++ ": invalid field specification ") ++ Quoting.word word

def byteAt (what : String) (standard : Nat) (text : Bytes) : Except Bytes (Nat × Bytes) :=
  match text with
  | 0x2E :: rest => numberAt what rest
  | rest => .ok (standard, rest)

def keyOf (word : Bytes) : Except Bytes Key := do
  let (field, behind) ← numberAt "invalid number at field start" word
  if field = 0 then .error (fieldError "field number is zero" word)
  let (byte, behind) ← byteAt "invalid number after '.'" 1 behind
  if byte = 0 then .error (fieldError "character offset is zero" word)
  let (style, skips, behind) := takeStyle {} behind
  let start : Position := { field := field, byte := byte, skipsBlanks := skips }
  match behind with
  | [] => return { start := start, style := style }
  | 0x2C :: rest =>
      let (last, rest) ← numberAt "invalid number after ','" rest
      if last = 0 then .error (fieldError "field number is zero" word)
      let (most, rest) ← byteAt "invalid number after '.'" 0 rest
      let (style, skips, rest) := takeStyle style rest
      if rest.isEmpty then
        return { start := start
                 stop := some { field := last, byte := most, skipsBlanks := skips }
                 style := style }
      else .error (fieldError "stray character in field spec" word)
  | _ => .error (fieldError "stray character in field spec" word)

/-! ### The program -/

def sortTable : Options.Table :=
  { letters := Options.plain "bdfghiMnrVRscCmuz" ++
      [('k', .required), ('t', .required), ('o', .required), ('S', .required), ('T', .required)]
    names := [{ name := "ignore-leading-blanks", letter := 'b' },
      { name := "dictionary-order", letter := 'd' }, { name := "ignore-case", letter := 'f' },
      { name := "general-numeric-sort", letter := 'g' },
      { name := "human-numeric-sort", letter := 'h' },
      { name := "ignore-nonprinting", letter := 'i' }, { name := "month-sort", letter := 'M' },
      { name := "numeric-sort", letter := 'n' }, { name := "reverse", letter := 'r' },
      { name := "stable", letter := 's' }, { name := "merge", letter := 'm' },
      { name := "unique", letter := 'u' }, { name := "zero-terminated", letter := 'z' },
      { name := "check", operand := .optional, letter := 'c' },
      { name := "key", operand := .required, letter := 'k' },
      { name := "field-separator", operand := .required, letter := 't' },
      { name := "output", operand := .required, letter := 'o' }] }

def linesOfAll (ending : UInt8) : List Bytes → Proc (Except Bytes (List Bytes))
  | [] => return .ok []
  | file :: rest => do
      let shownName := Quoting.nameIfNeeded file
      let failed (what : String) (error : OsError) : Bytes :=
        Bytes.ofText what ++ shownName ++ Bytes.ofText (": " ++ reason error)
      match ← Input.all file with
      | .error error => return .error (failed "cannot read: " error)
      | .ok (_, some error) =>
          let what := if error = .badChannel then "stat failed: " else "read failed: "
          return .error (failed what error)
      | .ok (text, none) =>
          match ← linesOfAll ending rest with
          | .error message => return .error message
          | .ok others => return .ok (Input.bareLines ending text ++ others)

def writeSorted (call : Call) (bytes : Bytes) : Proc Nat := do
  if bytes.isEmpty then return 0
  else
    match ← Proc.write 1 bytes with
    | .ok _ => return 0
    | .error error =>
        complainText call ("fflush failed: 'standard output': " ++ reason error)
        complainText call "write error"
        return 2

def writeFile (call : Call) (file bytes : Bytes) : Proc Nat := do
  let opened ← Proc.act fun number kernel =>
    let channel := kernel.unused number 3
    match kernel.openFile number channel file .output with
    | .ok next => ((.ok channel : Except OsError Nat), next)
    | .error error => (.error error, kernel)
  match opened with
  | .error error =>
      complain call (Bytes.ofText "open failed: " ++ Quoting.nameIfNeeded file ++
        Bytes.ofText (": " ++ reason error))
      return 2
  | .ok channel =>
      match ← Proc.write channel bytes with
      | .ok _ => return 0
      | .error error =>
          complain call (Bytes.ofText "write failed: " ++ Quoting.nameIfNeeded file ++
            Bytes.ofText (": " ++ reason error))
          return 2

def styleOf (given : List Options.Given) : Style :=
  given.foldl (fun style option => (style.set option.letter).getD style) {}

def keysOf (style : Style) (given : List Options.Given) : Except Bytes (List Key) :=
  let words := given.filterMap fun option => if option.letter == 'k' then option.word else none
  words.mapM fun word => do
    let key ← keyOf word
    let hasOwn := key.style != {} || key.start.skipsBlanks ||
      key.stop.any fun position => position.skipsBlanks
    if hasOwn then return key
    else
      return { key with
        style := style
        start := { key.start with skipsBlanks := style.skipsBlanks }
        stop := key.stop.map fun position => { position with skipsBlanks := style.skipsBlanks } }

def tabOf (given : List Options.Given) : Except Bytes (Option UInt8) :=
  match Options.word? 't' given with
  | none => .ok none
  | some [] => .error (Bytes.ofText "empty tab")
  | some [byte] => .ok (some byte)
  | some [0x5C, 0x30] => .ok (some 0)
  | some word => .error (Bytes.ofText "multi-character tab " ++ Quoting.word word)

def requestOf (given : List Options.Given) : Except Bytes Request := do
  let style := styleOf given
  let keys ← keysOf style given
  let tab ← tabOf given
  let whole : List Key :=
    if keys.isEmpty && style.skipsBlanks then
      [{ start := { field := 1, byte := 1, skipsBlanks := true }, style := style }]
    else keys
  return { keys := whole, style := style, tab := tab, isStable := Options.has 's' given
           isUnique := Options.has 'u' given }

def checkOrder (call : Call) (request : Request) (isSilent : Bool) (file : Bytes)
    (lines : List Bytes) : Proc Nat := do
  match request.disorder? 1 lines with
  | none => return 0
  | some (number, line) =>
      unless isSilent do
        complain call (file ++ Bytes.ofText (":" ++ toString number ++ ": disorder: ") ++ line)
      return 1

def sort : Program := fun call =>
  Options.withOptions call sortTable 2 fun given words => do
    match requestOf given with
    | .error message =>
        complain call message
        return 2
    | .ok request =>
        let files := orStandard words
        let ending := endingOf given
        let checks := Options.has 'c' given || Options.has 'C' given
        match checks, files with
        | true, _ :: extra :: _ =>
            complain call (Bytes.ofText "extra operand " ++ Quoting.word extra ++
              Bytes.ofText " not allowed with -c")
            return 2
        | _, _ =>
            match ← linesOfAll ending files with
            | .error message =>
                complain call message
                return 2
            | .ok lines =>
                if checks then
                  checkOrder call request (Options.has 'C' given) (files.headD []) lines
                else
                  let sorted := request.sort lines
                  let kept :=
                    if request.isUnique then
                      dropRepeated (fun left right => request.compare left right == .eq) sorted
                    else sorted
                  let bytes := kept.flatMap fun line => line ++ [ending]
                  match Options.word? 'o' given with
                  | some file => writeFile call file bytes
                  | none => writeSorted call bytes

/-! ### Repeated lines -/

/-- What of a line is compared with the line before. -/
structure Compared where
  fields : Nat := 0
  skipped : Nat := 0
  most : Option Nat := none
  folds : Bool := false

def behindFields : (fields : Nat) → Bytes → Bytes
  | 0, text => text
  | fields + 1, text =>
      behindFields fields ((text.dropWhile isBlank).dropWhile fun byte => !isBlank byte)

def Compared.partOf (compared : Compared) (line : Bytes) : Bytes :=
  let behind := (behindFields compared.fields line).drop compared.skipped
  let part := compared.most.elim behind behind.take
  if compared.folds then part.map upper else part

def groups (compared : Compared) (lines : List Bytes) : List (List Bytes) :=
  lines.splitBy fun left right => compared.partOf left == compared.partOf right

structure Display where
  counts : Bool := false
  onlyRepeated : Bool := false
  onlyUnique : Bool := false
  allRepeated : Bool := false

def Display.group (display : Display) (ending : UInt8) (group : List Bytes) : Bytes :=
  let isRepeated := 1 < group.length
  let hidden :=
    isRepeated && display.onlyUnique ||
      !isRepeated && (display.onlyRepeated || display.allRepeated)
  if hidden then []
  else if display.allRepeated then group.flatMap fun line => line ++ [ending]
  else
    let front := if display.counts then padded 7 (toString group.length) ++ [0x20] else []
    front ++ group.headD [] ++ [ending]

def uniqueTable : Options.Table :=
  { letters := Options.plain "cdDuiz" ++
      [('f', .required), ('s', .required), ('w', .required)]
    names := [{ name := "count", letter := 'c' }, { name := "repeated", letter := 'd' },
      { name := "unique", letter := 'u' }, { name := "ignore-case", letter := 'i' },
      { name := "skip-fields", operand := .required, letter := 'f' },
      { name := "skip-chars", operand := .required, letter := 's' },
      { name := "check-chars", operand := .required, letter := 'w' },
      { name := "all-repeated", operand := .optional, letter := 'D' },
      { name := "zero-terminated", letter := 'z' }] }

def comparedOf (given : List Options.Given) : Except Bytes Compared := do
  let number (letter : Char) (what : String) : Except Bytes (Option Nat) :=
    match Options.word? letter given with
    | none => .ok none
    | some word =>
        match Program.Amount.read? word with
        | some count => .ok (some count)
        | none => .error (word ++ Bytes.ofText (": invalid number of " ++ what))
  let fields ← number 'f' "fields to skip"
  let skipped ← number 's' "bytes to skip"
  let most ← number 'w' "bytes to compare"
  return { fields := fields.getD 0, skipped := skipped.getD 0, most := most
           folds := Options.has 'i' given }

def unique : Program := fun call =>
  Options.withOptions call uniqueTable 1 fun given words => do
    match comparedOf given, words with
    | .error message, _ =>
        complain call message
        return 1
    | _, _ :: _ :: extra :: _ =>
        refuse call 1 (Bytes.ofText "extra operand " ++ Quoting.word extra)
    | .ok compared, _ =>
        let file := words.headD [0x2D]
        let ending := endingOf given
        let display : Display :=
          { counts := Options.has 'c' given, onlyRepeated := Options.has 'd' given
            onlyUnique := Options.has 'u' given, allRepeated := Options.has 'D' given }
        match ← Input.all file with
        | .error error =>
            complainOf call (Quoting.nameIfNeeded file) error
            return 1
        | .ok (_, some error) =>
            complain call (Bytes.ofText "error reading " ++ Quoting.name file ++
              Bytes.ofText (": " ++ reason error))
            return 1
        | .ok (text, none) =>
            let output :=
              (groups compared (Input.bareLines ending text)).flatMap (display.group ending)
            match words with
            | [_, target] => writeFile call target output
            | _ => printAll call output 0

end CompilerDriver.Machine.Program.Order
