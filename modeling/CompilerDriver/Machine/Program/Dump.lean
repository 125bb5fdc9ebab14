import CompilerDriver.Machine.Program.Amount

/-!
Bytes spelled out in rows, as numbers of some size and base or as characters. Each row begins with
its place, and rows that repeat the one before are left out.
-/

namespace CompilerDriver.Machine.Program.Dump

open Kernel (Proc)

inductive Kind where
  | octal
  | hexadecimal
  | unsigned
  | signed
  | character
  | name
  deriving Repr, DecidableEq, Inhabited

/-- A kind of spelling for groups of so many bytes, perhaps with the characters behind. -/
structure Column where
  kind : Kind
  size : Nat
  withText : Bool := false
  deriving Repr, DecidableEq, Inhabited

def Column.width (column : Column) : Nat :=
  match column.kind, column.size with
  | .character, _ | .name, _ => 3
  | .octal, 1 => 3
  | .octal, 2 => 6
  | .octal, 4 => 11
  | .octal, _ => 22
  | .hexadecimal, size => 2 * size
  | .unsigned, 1 => 3
  | .unsigned, 2 => 5
  | .unsigned, 4 => 10
  | .unsigned, _ => 20
  | .signed, 1 => 4
  | .signed, 2 => 6
  | .signed, 4 => 11
  | .signed, _ => 20

def valueOf (bytes : Bytes) : Nat :=
  bytes.foldr (fun byte value => 256 * value + byte.toNat) 0

def padded (fill : Char) (width : Nat) (text : List Char) : List Char :=
  List.replicate (width - text.length) fill ++ text

def controlNames : List String :=
  ["nul", "soh", "stx", "etx", "eot", "enq", "ack", "bel", "bs", "ht", "nl", "vt", "ff", "cr", "so",
   "si", "dle", "dc1", "dc2", "dc3", "dc4", "nak", "syn", "etb", "can", "em", "sub", "esc", "fs",
   "gs", "rs", "us", "sp"]

def nameText (byte : UInt8) : List Char :=
  let code := byte.toNat % 128
  match controlNames[code]? with
  | some name => name.toList
  | none => if code = 127 then "del".toList else [Char.ofNat code]

def escapes : List (UInt8 × Char) :=
  [(0x00, '0'), (0x07, 'a'), (0x08, 'b'), (0x0C, 'f'), (0x0A, 'n'), (0x0D, 'r'), (0x09, 't'),
   (0x0B, 'v')]

def characterText (byte : UInt8) : List Char :=
  match escapes.lookup byte with
  | some letter => ['\\', letter]
  | none =>
      if 0x20 ≤ byte && byte < 0x7F then [Char.ofNat byte.toNat]
      else padded '0' 3 (Nat.toDigits 8 byte.toNat)

def Column.spell (column : Column) (bytes : Bytes) : List Char :=
  let value := valueOf bytes
  let limit := Nat.pow 256 column.size
  match column.kind with
  | .octal => padded '0' column.width (Nat.toDigits 8 value)
  | .hexadecimal => padded '0' column.width (Nat.toDigits 16 value)
  | .unsigned => Nat.toDigits 10 value
  | .signed =>
      if limit ≤ 2 * value then '-' :: Nat.toDigits 10 (limit - value)
      else Nat.toDigits 10 value
  | .character => characterText (bytes.headD 0)
  | .name => nameText (bytes.headD 0)

structure Layout where
  columns : List Column
  width : Nat := 16
  /-- The base of the places, if they are shown. -/
  base : Option Nat := some 8
  showsAll : Bool := false
  deriving Inhabited

def Layout.rowWidth (layout : Layout) (column : Column) : Nat :=
  (column.width + 1) * (layout.width / column.size)

def Layout.greatest (layout : Layout) : Nat :=
  (layout.columns.map layout.rowWidth).foldl max 0

/-- The bytes in groups; the last one is filled up with zeros. -/
def groups (size : Nat) : (steps : Nat) → Bytes → List Bytes
  | 0, _ => []
  | steps + 1, bytes =>
      if bytes.isEmpty then []
      else
        let group := bytes.take size
        (group ++ List.replicate (size - group.length) 0) :: groups size steps (bytes.drop size)

/-- Groups one behind the other, with the room that other columns need spread between them. -/
def spread (column : Column) (pad count : Nat) : (left : Nat) → List Bytes → List Char
  | _, [] => []
  | left, group :: rest =>
      let before := pad * left / count
      let behind := pad * (left - 1) / count
      padded ' ' (column.width + 1 + before - behind) (column.spell group) ++
        spread column pad count (left - 1) rest

def visible (byte : UInt8) : Char :=
  if 0x20 ≤ byte && byte < 0x7F then Char.ofNat byte.toNat else '.'

def Layout.columnText (layout : Layout) (bytes : Bytes) (column : Column) : List Char :=
  let count := layout.width / column.size
  let pad := layout.greatest - layout.rowWidth column
  let found := groups column.size (bytes.length + 1) bytes
  let text := spread column pad count count found
  if column.withText then
    let missing := layout.greatest - text.length
    text ++ List.replicate (if found.length < count then missing else 0) ' ' ++ "  >".toList ++
      bytes.map visible ++ ['<']
  else text

def Layout.place (layout : Layout) (offset : Nat) : List Char :=
  match layout.base with
  | none => []
  | some 16 => padded '0' 6 (Nat.toDigits 16 offset)
  | some base => padded '0' 7 (Nat.toDigits base offset)

def Layout.row (layout : Layout) (offset : Nat) (bytes : Bytes) : List Char :=
  let place := layout.place offset
  let lines := layout.columns.map (layout.columnText bytes)
  match lines with
  | [] => []
  | first :: rest =>
      place ++ first ++ ['\n'] ++
        rest.flatMap fun line => List.replicate place.length ' ' ++ line ++ ['\n']

/-- The rows of some bytes. `before` is the row before, and `isHidden` says whether it was left
out. -/
def Layout.rows (layout : Layout) : (steps : Nat) → (offset : Nat) → (before : Option Bytes) →
    (isHidden : Bool) → Bytes → List Char
  | 0, offset, _, _, _ => layout.place offset
  | steps + 1, offset, before, isHidden, bytes =>
      if bytes.isEmpty then if layout.base.isNone then [] else layout.place offset ++ ['\n']
      else
        let row := bytes.take layout.width
        let rest := bytes.drop layout.width
        let next := offset + row.length
        if !layout.showsAll && before == some row && row.length = layout.width then
          (if isHidden then [] else ['*', '\n']) ++
            Layout.rows layout steps next before true rest
        else
          layout.row offset row ++ Layout.rows layout steps next (some row) false rest

def kindOf? : Char → Option Kind
  | 'o' => some .octal
  | 'x' => some .hexadecimal
  | 'u' => some .unsigned
  | 'd' => some .signed
  | 'c' => some .character
  | 'a' => some .name
  | _ => none

/-- What is wrong with a word that asks for columns. -/
inductive Fault where
  | unknown (letter : Char)
  | unevenSize (size : Nat)

def Fault.message (word : Bytes) : Fault → Bytes
  | .unknown letter =>
      Bytes.ofText s!"invalid character '{letter}' in type string " ++ Quoting.word word
  | .unevenSize size =>
      Bytes.ofText "invalid type string " ++ Quoting.word word ++
        Bytes.ofText s!";\nthis system doesn't provide a {size}-byte integral type"

def sizeOf : List Char → Except Fault (Nat × List Char)
  | 'C' :: rest => .ok (1, rest)
  | 'S' :: rest => .ok (2, rest)
  | 'I' :: rest => .ok (4, rest)
  | 'L' :: rest => .ok (8, rest)
  | text =>
      let (digits, rest) := text.span Char.isDigit
      if digits.isEmpty then .ok (4, rest)
      else
        let size := digits.foldl (fun value digit => 10 * value + (digit.toNat - '0'.toNat)) 0
        if [1, 2, 4, 8].contains size then .ok (size, rest) else .error (.unevenSize size)

def columns : (steps : Nat) → List Char → Except Fault (List Column)
  | 0, _ => .ok []
  | steps + 1, text =>
      match text with
      | [] => .ok []
      | letter :: rest =>
          match kindOf? letter with
          | none => .error (.unknown letter)
          | some kind => do
              let isSingle := kind = .character || kind = .name
              let (size, behind) ← if isSingle then .ok (1, rest) else sizeOf rest
              let (withText, after) :=
                match behind with
                | 'z' :: after => (true, after)
                | after => (false, after)
              let others ← columns steps after
              return { kind := kind, size := size, withText := withText } :: others

def shortColumns : List (Char × Column) :=
  [('a', { kind := .name, size := 1 }), ('b', { kind := .octal, size := 1 }),
   ('c', { kind := .character, size := 1 }), ('d', { kind := .unsigned, size := 2 }),
   ('i', { kind := .signed, size := 4 }), ('l', { kind := .signed, size := 8 }),
   ('o', { kind := .octal, size := 2 }), ('s', { kind := .signed, size := 2 }),
   ('x', { kind := .hexadecimal, size := 2 })]

def table : Options.Table :=
  { letters := Options.plain "abcdiloxsv" ++
      [('A', .required), ('j', .required), ('N', .required), ('t', .required), ('w', .optional)]
    names := [{ name := "address-radix", operand := .required, letter := 'A' },
      { name := "skip-bytes", operand := .required, letter := 'j' },
      { name := "read-bytes", operand := .required, letter := 'N' },
      { name := "format", operand := .required, letter := 't' },
      { name := "output-duplicates", letter := 'v' },
      { name := "width", operand := .optional, letter := 'w' }] }

def columnsOf (given : List Options.Given) : Except Bytes (List Column) :=
  given.foldr
    (fun option found =>
      match found with
      | .error message => .error message
      | .ok others =>
          match option.letter, option.word with
          | 't', some word =>
              let text := shown word
              match columns (text.length + 1) text.toList with
              | .ok found => .ok (found ++ others)
              | .error fault => .error (fault.message word)
          | letter, _ => .ok ((shortColumns.lookup letter).toList ++ others))
    (.ok [])

def base? (given : List Options.Given) : Option (Option Nat) :=
  match (Options.word? 'A' given).bind fun word => word.head? with
  | none => some (some 8)
  | some 0x64 => some (some 10)
  | some 0x6F => some (some 8)
  | some 0x78 => some (some 16)
  | some 0x6E => some none
  | some _ => none

def gather (call : Call) : List Bytes → Proc (Option Bytes × Nat)
  | [] => return (none, 0)
  | file :: rest => do
      match ← Input.all file with
      | .error error =>
          complainOf call file error
          let (others, _) ← gather call rest
          return (others, 1)
      | .ok (text, error) =>
          match error with
          | some error => complainOf call (Input.title file) error
          | none => pure ()
          let (others, status) ← gather call rest
          return (some (text ++ others.getD []), if error.isSome then 1 else status)

def program : Program := fun call =>
  Options.withOptions call table 1 fun given words => do
    let amount (letter : Char) : Option Nat := (Options.word? letter given).bind Amount.read?
    match columnsOf given, base? given with
    | .error message, _ =>
        complain call message
        return 1
    | _, none =>
        complain call (Bytes.ofText "invalid output address radix '" ++
          ((Options.word? 'A' given).getD []).take 1 ++
          Bytes.ofText "'; it must be one character from [doxn]")
        return 1
    | .ok columns, some base =>
        let (found, status) ← gather call (if words.isEmpty then [[0x2D]] else words)
        let text := found.getD []
        let skipped := (amount 'j').getD 0
        if found.isNone && skipped = 0 then
          return status
        else if text.length < skipped then
          complainText call "cannot skip past end of combined input"
          return 1
        else
          let rest := text.drop skipped
          let bytes := (amount 'N').elim rest rest.take
          let width := if Options.has 'w' given then (amount 'w').getD 32 else 16
          let layout : Layout :=
            { columns := if columns.isEmpty then [{ kind := .octal, size := 2 }] else columns
              width := max 1 width
              base := base
              showsAll := Options.has 'v' given }
          printAll call
            (Bytes.ofText
              (String.ofList (layout.rows (bytes.length + 1) skipped none false bytes))) status

end CompilerDriver.Machine.Program.Dump
