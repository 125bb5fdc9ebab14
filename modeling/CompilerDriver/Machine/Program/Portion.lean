import CompilerDriver.Machine.Program.Amount
import CompilerDriver.Machine.Program.Concatenate

/-!
Programs that give a part of a text: its front, its end, or some columns of every line.
-/

namespace CompilerDriver.Machine.Program

open Kernel (Proc)

inductive Titled where
  | whenMany
  | always
  | never
  deriving DecidableEq

def Titled.ofOptions (given : List Options.Given) : Titled :=
  match Options.last? ['q', 'v'] given with
  | some { letter := 'q', .. } => .never
  | some _ => .always
  | none => .whenMany

def Titled.applies (titled : Titled) (files : List Bytes) : Bool :=
  match titled with
  | .always => true
  | .never => false
  | .whenMany => 1 < files.length

/-- The title of a file. All but the first have an empty line in front. -/
def titleOf (isFirst : Bool) (file : Bytes) : Bytes :=
  (if isFirst then [] else [0x0A]) ++ Bytes.ofText "==> " ++ Input.title file ++
    Bytes.ofText " <==\n"

inductive Measure where
  | lines
  | bytes
  deriving DecidableEq

def Measure.text : Measure → String
  | .lines => "lines"
  | .bytes => "bytes"

/-- How much is wanted: a count, from the near end or up to the far one. -/
structure Extent where
  measure : Measure := .lines
  count : Nat := 10
  /-- Whether the count is of what is left out. -/
  isRest : Bool := false
  ending : UInt8 := 0x0A

/-- Where a byte ends a line for the nth time, counted from one: how much there is up to it. -/
def endOfLine? (ending : UInt8) : (count position : Nat) → Bytes → Option Nat
  | _, _, [] => none
  | count, position, byte :: rest =>
      if byte = ending then
        if count ≤ 1 then some (position + 1) else endOfLine? ending (count - 1) (position + 1) rest
      else endOfLine? ending count (position + 1) rest

def takeFront (extent : Extent) (wanted : Nat) (piece : Bytes) : Input.Taken Nat :=
  match extent.measure with
  | .bytes =>
      if wanted ≤ piece.length then
        { state := 0, output := piece.take wanted, left := some (piece.length - wanted) }
      else { state := wanted - piece.length, output := piece }
  | .lines =>
      match endOfLine? extent.ending wanted 0 piece with
      | some position =>
          { state := 0, output := piece.take position, left := some (piece.length - position) }
      | none =>
          let ended := piece.countP (· == extent.ending)
          { state := wanted - ended, output := piece }

def withoutEnd (extent : Extent) (text : Bytes) : Bytes :=
  match extent.measure with
  | .bytes => text.take (text.length - extent.count)
  | .lines =>
      let lines := Input.linesOf extent.ending text
      (lines.take (lines.length - extent.count)).flatten

def readingComplaint (call : Call) (file : Bytes) (error : OsError) : Proc Unit :=
  complain call
    (Bytes.ofText "error reading " ++ Quoting.name (Input.title file) ++
      Bytes.ofText (": " ++ reason error))

def writeOrEnd (call : Call) (bytes : Bytes) : Proc Unit := do
  if bytes.isEmpty then pure ()
  else
    match ← Proc.write 1 bytes with
    | .ok _ => pure ()
    | .error error => do
        complainText call ("write error: " ++ reason error)
        Proc.exit 1

def headChannel (call : Call) (extent : Extent) (file : Bytes) (channel : Nat) : Proc Nat := do
  if extent.isRest then
    let (text, error) ← Proc.readAll channel
    match error with
    | some error =>
        readingComplaint call file error
        return 1
    | none =>
        writeOrEnd call (withoutEnd extent text)
        return 0
  else if extent.count = 0 then return 0
  else
    let (_, ending) ← Input.stream channel extent.count (takeFront extent)
    match ending with
    | .done => return 0
    | .unread error =>
        readingComplaint call file error
        return 1
    | .unwritten error =>
        complainText call ("write error: " ++ reason error)
        Proc.exit 1

def eachTitled (call : Call) (isTitled : Bool) (action : Bytes → Nat → Proc Nat) :
    (isFirst : Bool) → List Bytes → Proc Nat
  | _, [] => return 0
  | isFirst, file :: rest => do
      match ← Input.opened file with
      | .error error =>
          complain call
            (Bytes.ofText "cannot open " ++ Quoting.name file ++
              Bytes.ofText (" for reading: " ++ reason error))
          return worse 1 (← eachTitled call isTitled action isFirst rest)
      | .ok channel =>
          if isTitled then writeOrEnd call (titleOf isFirst file)
          let status ← action file channel
          Input.close channel
          return worse status (← eachTitled call isTitled action false rest)

def withAmount (call : Call) (measure : Measure) (word : Bytes) (action : Nat → Proc Nat) :
    Proc Nat :=
  match Amount.read? word with
  | some count => action count
  | none => do
      complain call
        (Bytes.ofText ("invalid number of " ++ measure.text ++ ": ") ++ Quoting.word word)
      return 1

def portionNames : List Options.Named :=
  [{ name := "bytes", operand := .required, letter := 'c' },
   { name := "lines", operand := .required, letter := 'n' },
   { name := "quiet", letter := 'q' }, { name := "silent", letter := 'q' },
   { name := "verbose", letter := 'v' }, { name := "zero-terminated", letter := 'z' }]

def digitLetters : List (Char × Options.Operand) :=
  Options.plain "0123456789"

def endingOf (given : List Options.Given) : UInt8 :=
  if Options.has 'z' given then 0 else 0x0A

def measured (given : List Options.Given) : Measure × Bytes :=
  match Options.last? ['c', 'n'] given with
  | some { letter := 'c', word := some word } => (.bytes, word)
  | some { word := some word, .. } => (.lines, word)
  | _ => (.lines, [0x31, 0x30])

def headWords : List Bytes → Except Bytes (List Bytes)
  | (0x2D :: rest) :: words =>
      let (digits, letters) := rest.span Amount.isDigit
      if digits.isEmpty then .ok ((0x2D :: rest) :: words)
      else
        let known := letters.all (Quoting.isIn "cbklmqvz")
        if !known then
          let wrong := (letters.filter fun byte => !Quoting.isIn "cbklmqvz" byte).take 1
          .error (Bytes.ofText "invalid trailing option -- " ++ wrong)
        else
          let has (letter : Char) : Bool := letters.contains (UInt8.ofNat letter.toNat)
          let unit : Bytes :=
            if has 'b' then [0x62] else if has 'k' then [0x6B] else if has 'm' then [0x6D] else []
          let option : Bytes := if has 'c' || !unit.isEmpty then [0x2D, 0x63] else [0x2D, 0x6E]
          let others := letters.filter (Quoting.isIn "qvz")
          .ok ((option ++ digits ++ unit) ::
            (if others.isEmpty then words else (0x2D :: others) :: words))
  | words => .ok words

def head : Program := fun call =>
  match headWords call.arguments with
  | .error message => refuse call 1 message
  | .ok arguments =>
      let table : Options.Table :=
        { letters := [('c', .required), ('n', .required)] ++ Options.plain "qvz" ++ digitLetters
          names := portionNames }
      let plainCall := { call with words := call.name :: arguments }
      Options.withOptions plainCall table 1 fun given words => do
        match given.find? fun option => option.letter.isDigit with
        | some option =>
            refuseText call 1 ("invalid trailing option -- " ++ option.letter.toString)
        | none =>
            let (measure, word) := measured given
            let (isRest, amount) :=
              match word with
              | 0x2D :: rest => (true, rest)
              | rest => (false, rest)
            withAmount call measure amount fun count => do
              let extent : Extent :=
                { measure := measure, count := count, isRest := isRest, ending := endingOf given }
              let files := orStandard words
              let isTitled := (Titled.ofOptions given).applies files
              let status ← eachTitled call isTitled (headChannel call extent) true files
              checkStandard call files "-: Bad file descriptor" status

def tailOf (extent : Extent) (text : Bytes) : Bytes :=
  match extent.measure, extent.isRest with
  | .bytes, true => text.drop (extent.count - 1)
  | .bytes, false => text.drop (text.length - extent.count)
  | .lines, true => ((Input.linesOf extent.ending text).drop (extent.count - 1)).flatten
  | .lines, false =>
      let lines := Input.linesOf extent.ending text
      (lines.drop (lines.length - extent.count)).flatten

def tailChannel (call : Call) (extent : Extent) (file : Bytes) (channel : Nat) : Proc Nat := do
  if !(← isOpenNow channel) then
    complain call
      (Bytes.ofText "cannot fstat " ++ Quoting.name (Input.title file) ++
        Bytes.ofText ": Bad file descriptor")
    return 1
  else
    let (text, error) ← Proc.readAll channel
    match error with
    | some error =>
        readingComplaint call file error
        return 1
    | none =>
        writeOrEnd call (tailOf extent text)
        return 0

/-- An old way to give a sign, a number and letters in one word, with one file at most. -/
def tailWord? (word : Bytes) : Option (List Bytes) :=
  let read (sign : UInt8) (rest : Bytes) : Option (List Bytes) :=
    let (digits, letters) := rest.span Amount.isDigit
    let follows := letters.getLast? == some 0x66
    let measure := if follows then letters.dropLast else letters
    let number := if digits.isEmpty then Bytes.ofText "10" else digits
    let signed := if sign = 0x2B then 0x2B :: number else number
    let follow : List Bytes := if follows then [[0x2D, 0x66]] else []
    match measure with
    | [] | [0x6C] => some ((Bytes.ofText "-n" ++ signed) :: follow)
    | [0x63] => some ((Bytes.ofText "-c" ++ signed) :: follow)
    | [0x62] => some ((Bytes.ofText "-c" ++ signed ++ [0x62]) :: follow)
    | _ => none
  match word with
  | 0x2B :: rest => read 0x2B rest
  | 0x2D :: rest =>
      let behind := if rest.head? = some 0x63 then rest.drop 1 else rest
      if behind.isEmpty then none else read 0x2D rest
  | _ => none

def tailWords (words : List Bytes) : List Bytes :=
  match words with
  | word :: rest =>
      let isOption (word : Bytes) : Bool := word.head? == some 0x2D && word.length != 1
      let fits :=
        match rest with
        | [] => true
        | [file] => !isOption file || file == [0x2D, 0x2D]
        | [mark, _] => mark == [0x2D, 0x2D]
        | _ => false
      match if fits then tailWord? word else none with
      | some options => options ++ rest
      | none => words
  | [] => []

def tail : Program := fun call =>
  let table : Options.Table :=
    { letters := [('c', .required), ('n', .required), ('s', .required)] ++
        Options.plain "qvzfF" ++ digitLetters
      names := portionNames ++ [{ name := "follow", operand := .optional, letter := 'f' },
        { name := "retry", letter := 'r' }] }
  let arguments := tailWords call.arguments
  Options.withOptions { call with words := call.name :: arguments } table 1 fun given words => do
    match given.find? fun option => option.letter.isDigit with
    | some option =>
        refuseText call 1 ("option used in invalid context -- " ++ option.letter.toString)
    | none =>
        let (measure, word) := measured given
        let (isRest, amount) :=
          match word with
          | 0x2B :: rest => (true, rest)
          | 0x2D :: rest => (false, rest)
          | rest => (false, rest)
        withAmount call measure amount fun count => do
          let extent : Extent :=
            { measure := measure, count := count, isRest := isRest, ending := endingOf given }
          let files := orStandard words
          let isTitled := (Titled.ofOptions given).applies files
          let status ← eachTitled call isTitled (tailChannel call extent) true files
          if (Options.has 'f' given || Options.has 'F' given) && !words.isEmpty then Proc.hang
          else checkStandard call files "-: Bad file descriptor" status

inductive Cutting where
  | bytes
  | fields
  deriving DecidableEq

/-- Some positions, each from one up to another. The last one may have no end. -/
abbrev Ranges := List (Nat × Option Nat)

def Ranges.covers (ranges : Ranges) (position : Nat) : Bool :=
  ranges.any fun (least, most) => least ≤ position && most.all (position ≤ ·)

def Ranges.begins (ranges : Ranges) (position : Nat) : Bool :=
  ranges.any fun range => range.1 == position

def Ranges.merged (ranges : Ranges) : Ranges :=
  let sorted := ranges.mergeSort fun left right => left.1 ≤ right.1
  let step (kept : Ranges) (range : Nat × Option Nat) : Ranges :=
    match kept with
    | (least, some most) :: rest =>
        if range.1 ≤ most then
          (least, range.2.map fun other => max most other) :: rest
        else range :: kept
    | (least, none) :: rest => (least, none) :: rest
    | [] => [range]
  (sorted.foldl step []).reverse

def Ranges.complement (ranges : Ranges) : Ranges :=
  let step (state : List (Nat × Option Nat) × Option Nat) (range : Nat × Option Nat) :
      List (Nat × Option Nat) × Option Nat :=
    match state.2 with
    | none => state
    | some next =>
        let gap := if next < range.1 then (next, some (range.1 - 1)) :: state.1 else state.1
        (gap, range.2.map (· + 1))
  let (gaps, next) := ranges.merged.foldl step ([], some 1)
  (match next with
    | some position => (position, none) :: gaps
    | none => gaps).reverse

inductive RangeError where
  | zero
  | unreadable (word : Bytes)
  | decreasing
  | endless

def cuttingName : Cutting → String
  | .bytes => "byte/character position"
  | .fields => "field value"

def RangeError.message (cutting : Cutting) : RangeError → Bytes
  | .zero =>
      Bytes.ofText
        (match cutting with
          | .bytes => "byte/character positions are numbered from 1"
          | .fields => "fields are numbered from 1")
  | .unreadable word =>
      Bytes.ofText ("invalid " ++ cuttingName cutting ++ " ") ++ Quoting.word word
  | .decreasing => Bytes.ofText "invalid decreasing range"
  | .endless => Bytes.ofText "invalid range with no endpoint: -"

def rangeOf (word : Bytes) : Except RangeError (Nat × Option Nat) :=
  let (first, behind) := word.span Amount.isDigit
  let least := if first.isEmpty then 1 else Amount.digitsValue first
  match behind with
  | [] =>
      if first.isEmpty || least = 0 then .error .zero else .ok (least, some least)
  | 0x2D :: rest =>
      let (last, left) := rest.span Amount.isDigit
      let most := Amount.digitsValue last
      if !left.isEmpty then .error (.unreadable left)
      else if first.isEmpty && last.isEmpty then .error .endless
      else if least = 0 then .error .zero
      else if last.isEmpty then .ok (least, none)
      else if most < least then .error .decreasing
      else .ok (least, some most)
  | left => .error (.unreadable left)

def rangesOf (list : Bytes) : Except RangeError Ranges :=
  let isBlank (byte : UInt8) : Bool := byte == 0x20 || byte == 0x09
  (Path.splitAt 0x2C (list.map fun byte => if isBlank byte then 0x2C else byte)).mapM rangeOf

def cutBytes (ranges : Ranges) (separator content : Bytes) : Bytes :=
  let picked := content.zipIdx.filter fun entry => ranges.covers (entry.2 + 1)
  let step (output : List Bytes) (entry : UInt8 × Nat) : List Bytes :=
    let front := if !output.isEmpty && ranges.begins (entry.2 + 1) then separator else []
    (front ++ [entry.1]) :: output
  (picked.foldl step []).reverse.flatten

/-- The fields at some positions. A line without the delimiter stays whole, unless it is left
out. -/
def cutFields (ranges : Ranges) (delimiter : UInt8) (separator : Bytes) (onlyDelimited : Bool)
    (content : Bytes) : Option Bytes :=
  if !content.contains delimiter then if onlyDelimited then none else some content
  else
    let fields := (Path.splitAt delimiter content).zipIdx
    let picked := fields.filter fun entry => ranges.covers (entry.2 + 1)
    some (joined [separator] 0 (picked.map Prod.fst))

def cutFiles (call : Call) (ending : UInt8) (cutLine : Bytes → Option Bytes) : List Bytes → Proc Nat
  | [] => return 0
  | file :: rest => do
      match ← Input.opened file with
      | .error error =>
          complainOf call (Quoting.nameIfNeeded file) error
          return worse 1 (← cutFiles call ending cutLine rest)
      | .ok channel =>
          let shown (_ : Unit) (line : Bytes) : Unit × Bytes :=
            match cutLine (Input.bare ending line) with
            | some output => ((), output ++ [ending])
            | none => ((), [])
          let (_, result) ← Input.streamLines ending channel () shown
          Input.close channel
          let status ← settleReading call file result
          return worse status (← cutFiles call ending cutLine rest)

def cutTable : Options.Table :=
  { letters := [('b', .required), ('c', .required), ('f', .required), ('d', .required),
      ('n', .none), ('s', .none), ('z', .none)]
    names := [{ name := "bytes", operand := .required, letter := 'b' },
      { name := "characters", operand := .required, letter := 'c' },
      { name := "fields", operand := .required, letter := 'f' },
      { name := "delimiter", operand := .required, letter := 'd' },
      { name := "only-delimited", letter := 's' },
      { name := "output-delimiter", operand := .required, letter := 'o' },
      { name := "complement", letter := 'p' }, { name := "zero-terminated", letter := 'z' }] }

def cut : Program := fun call =>
  Options.withOptions call cutTable 1 fun given words => do
    let lists := given.filter fun option => ['b', 'c', 'f'].contains option.letter
    let delimiter := Options.word? 'd' given
    match lists with
    | [] => refuseText call 1 "you must specify a list of bytes, characters, or fields"
    | _ :: _ :: _ => refuseText call 1 "only one list may be specified"
    | [list] =>
        let cutting : Cutting := if list.letter == 'f' then .fields else .bytes
        if delimiter.any fun word => 1 < word.length then
          refuseText call 1 "the delimiter must be a single character"
        else if cutting = .bytes && delimiter.isSome then
          refuseText call 1 "an input delimiter may be specified only when operating on fields"
        else if cutting = .bytes && Options.has 's' given then
          refuseText call 1
            "suppressing non-delimited lines makes sense\n\tonly when operating on fields"
        else
          match rangesOf (list.word.getD []) with
          | .error error => refuse call 1 (error.message cutting)
          | .ok listed =>
              let ranges := if Options.has 'p' given then Ranges.complement listed
                else Ranges.merged listed
              let byte := (delimiter.getD [0x09]).headD 0
              let cutLine (content : Bytes) : Option Bytes :=
                match cutting with
                | .bytes => some (cutBytes ranges ((Options.word? 'o' given).getD []) content)
                | .fields =>
                    cutFields ranges byte ((Options.word? 'o' given).getD [byte])
                      (Options.has 's' given) content
              let files := orStandard words
              let status ← cutFiles call (endingOf given) cutLine files
              checkStandard call files "-: Bad file descriptor" status

end CompilerDriver.Machine.Program
