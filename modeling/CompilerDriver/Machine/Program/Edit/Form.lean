import CompilerDriver.Machine.Program.Support
import CompilerDriver.Machine.Shell.Form
import CompilerDriver.Machine.Regular

/-!
Scripts that edit lines: commands with the lines that they are for. Commands stand one behind the
other, and those that hold others say where the held ones end.
-/

namespace CompilerDriver.Machine.Program.Edit

open Shell (Units)
/-! ### Commands -/

/-- An expression with how it is used; without one, the last that was used counts. -/
structure Expression where
  regular : Option Regular
  folds : Bool := false
  deriving Inhabited

inductive Address where
  | line (number : Nat)
  | every (first step : Nat)
  | last
  | covered (expression : Expression)
  deriving Inhabited

inductive Limit where
  | line (number : Nat)
  | more (count : Nat)
  | multiple (number : Nat)
  | last
  | covered (expression : Expression)
  deriving Inhabited

/-- What becomes of the size of letters in a replacement. -/
inductive Sizing where
  | upper
  | lower
  | asIs
  | upperOne
  | lowerOne
  deriving Repr, DecidableEq, Inhabited

inductive Piece where
  | text (units : Units)
  | group (number : Nat)
  | sizing (sizing : Sizing)
  deriving Repr, DecidableEq, Inhabited

structure Substitution where
  expression : Expression
  pieces : List Piece
  all : Bool := false
  prints : Bool := false
  number : Nat := 1
  file : Option Bytes := none
  deriving Inhabited

inductive When where
  | always
  | replaced
  | notReplaced
  deriving Repr, DecidableEq, Inhabited

inductive Action where
  | block (stop : Nat)
  | nothing
  | jump (condition : When) (label : Bytes)
  | showNumber
  | showName
  | delete (firstLine : Bool)
  | recall (appends : Bool)
  | keep (appends : Bool)
  | exchange
  | spell (width : Option Nat)
  | next (appends : Bool)
  | print (firstLine : Bool)
  | quit (prints : Bool) (status : Nat)
  | append (text : Bytes)
  | insert (text : Bytes)
  | change (text : Bytes)
  | substitute (substitution : Substitution)
  | transliterate (pairs : List (UInt8 × UInt8))
  | readFile (path : Bytes)
  | writeFile (path : Bytes) (firstLine : Bool)
  | clear
  deriving Inhabited

structure Command where
  address : Option Address := none
  limit : Option Limit := none
  isNegated : Bool := false
  /-- Whether the range has begun before the first line. -/
  begins : Bool := false
  action : Action
  deriving Inhabited

/-- A script: its commands and where its labels are. -/
structure Script where
  commands : List Command := []
  labels : List (Bytes × Nat) := []
  deriving Inhabited

/-! ### Reading -/

/-- What is wrong with a script, and behind how much text of which part. -/
structure Breakage where
  part : Nat
  place : Nat
  message : String

/-- The reading of one part of a script. The commands that were read are kept in reverse, with the
numbers of those whose held commands have not ended. -/
structure Source where
  part : Nat := 1
  size : Nat := 0
  text : Units := []
  extended : Bool := false
  found : List Command := []
  blocks : List Nat := []
  labels : List (Bytes × Nat) := []

abbrev Read := StateT Source (Except Breakage)

namespace Read

def fail {α : Type} (message : String) : Read α := fun source =>
  .error { part := source.part, place := source.size - source.text.length, message := message }

def peek : Read (Option Char) := do
  return (← get).text.head?

def take : Read (Option Char) := do
  let unit ← peek
  modify fun source => { source with text := source.text.drop 1 }
  return unit

def spanWhile (isWanted : Char → Bool) : Read Units := do
  let units := (← get).text.takeWhile isWanted
  modify fun source => { source with text := source.text.drop units.length }
  return units

def isBlank (unit : Char) : Bool :=
  unit == ' ' || ('\t' ≤ unit && unit ≤ '\r' && unit != '\n')

def skipBlanks : Read Unit := do
  let _ ← spanWhile isBlank

def number : Read Nat := do
  let digits ← spanWhile Char.isDigit
  return digits.foldl (fun value digit => 10 * value + (digit.toNat - '0'.toNat)) 0

def room : Read Nat := do
  return (← get).text.length + 2

def classRest (mark : Char) : (steps : Nat) → Read Units
  | 0 => return []
  | steps + 1 => do
      match ← take with
      | none => return []
      | some unit =>
          if unit == mark && (← peek) == some ']' then
            let _ ← take
            return [mark, ']']
          else return unit :: (← classRest mark steps)

def bracketed : (steps : Nat) → (isFirst : Bool) → Read Units
  | 0, _ => return []
  | steps + 1, isFirst => do
      let next ← peek
      match next with
      | none => return []
      | some unit =>
          let _ ← take
          let behind := (← get).text.head?
          if unit == ']' && !isFirst then return [']']
          else if unit == '[' && [some ':', some '.', some '='].contains behind then
            let mark := (← take).getD ':'
            let inside ← classRest mark steps
            return '[' :: mark :: inside ++ (← bracketed steps false)
          else if unit == '\\' && [some 'n', some 't'].contains behind then
            let letter := (← take).getD 'n'
            return (if letter == 'n' then '\n' else '\t') :: (← bracketed steps false)
          else return unit :: (← bracketed steps (isFirst && unit == '^'))

/-- An expression up to a mark. Nothing if the mark does not come. -/
def pattern (mark : Char) : (steps : Nat) → Read (Option Units)
  | 0 => return none
  | steps + 1 => do
      let also (front : Units) : Read (Option Units) := do
        return (← pattern mark steps).map fun rest => front ++ rest
      match ← take with
      | none => return none
      | some '\\' =>
          match ← take with
          | none => return none
          | some unit =>
              if unit == mark then also [unit]
              else if unit == 'n' then also ['\n']
              else if unit == '\n' then also ['\n']
              else also ['\\', unit]
      | some unit =>
          if unit == mark then return some []
          else if unit == '[' then also ('[' :: (← bracketed (← room) true))
          else if unit == '\n' then return none
          else also [unit]

def replacement (mark : Char) : (steps : Nat) → Read (Option Units)
  | 0 => return none
  | steps + 1 => do
      let also (front : Units) : Read (Option Units) := do
        return (← replacement mark steps).map fun rest => front ++ rest
      match ← take with
      | none => return none
      | some '\\' =>
          match ← take with
          | none => return none
          | some unit => if unit == mark && unit != '&' then also [unit] else also ['\\', unit]
      | some unit =>
          if unit == mark then return some []
          else if unit == '\n' then return none
          else also [unit]

def control? : Char → Option Char
  | 'a' => some '\x07'
  | 'f' => some '\x0c'
  | 'n' => some '\n'
  | 'r' => some '\r'
  | 't' => some '\t'
  | 'v' => some '\x0b'
  | _ => none

/-- A unit given by its number behind a letter for the base, and what is behind it. -/
def coded? (text : Units) : Option (Char × Units) :=
  let number (base : Nat) (isDigit : Char → Bool) (rest : Units) : Option (Char × Units) :=
    let digits := (rest.take (if base = 16 then 2 else 3)).takeWhile isDigit
    if digits.isEmpty then none
    else
      let value := digits.foldl
        (fun value digit =>
          let small := digit.toLower
          base * value +
            if small.isDigit then small.toNat - '0'.toNat else small.toNat - 'a'.toNat + 10)
        0
      some (Char.ofNat (value % 256), rest.drop digits.length)
  match text with
  | 'x' :: rest =>
      number 16 (fun unit => unit.isDigit || ('a' ≤ unit.toLower && unit.toLower ≤ 'f')) rest
  | 'o' :: rest => number 8 (fun unit => '0' ≤ unit && unit ≤ '7') rest
  | 'd' :: rest => number 10 Char.isDigit rest
  | _ => none

def isSpecial (unit : Char) : Bool :=
  "\\&.*[]^$/".toList.contains unit

def plainEscapes : (steps : Nat) → Units → Units
  | 0, text => text
  | steps + 1, text =>
      match text with
      | '\\' :: unit :: rest =>
          match control? unit, coded? (unit :: rest) with
          | some control, _ => control :: plainEscapes steps rest
          | none, some (coded, behind) =>
              (if isSpecial coded then ['\\', coded] else [coded]) ++ plainEscapes steps behind
          | none, none => '\\' :: unit :: plainEscapes steps rest
      | unit :: rest => unit :: plainEscapes steps rest
      | [] => []

def expression (units : Units) (folds : Bool) : Read Expression := do
  if units.isEmpty then return { regular := none, folds := folds }
  else
    match Regular.read (← get).extended (plainEscapes (units.length + 1) units).toBytes with
    | .ok regular => return { regular := some regular, folds := folds }
    | .error trouble => fail trouble.message

def pieces : (steps : Nat) → Units → List Piece
  | 0, _ => []
  | steps + 1, text =>
      match text with
      | [] => []
      | '&' :: rest => .group 0 :: pieces steps rest
      | '\\' :: unit :: rest =>
          let piece : Piece :=
            if unit.isDigit then .group (unit.toNat - '0'.toNat)
            else
              match unit with
              | 'U' => .sizing .upper
              | 'L' => .sizing .lower
              | 'E' => .sizing .asIs
              | 'u' => .sizing .upperOne
              | 'l' => .sizing .lowerOne
              | _ => .text [(control? unit).getD unit]
          piece :: pieces steps rest
      | unit :: rest =>
          match pieces steps rest with
          | .text more :: others => .text (unit :: more) :: others
          | others => .text [unit] :: others

def foldsBehind : (steps : Nat) → Read Bool
  | 0 => return false
  | steps + 1 => do
      match ← peek with
      | some 'I' =>
          let _ ← take
          let _ ← foldsBehind steps
          return true
      | some 'M' =>
          let _ ← take
          foldsBehind steps
      | _ => return false

def coveredLines (mark : Char) : Read Expression := do
  match ← pattern mark (← room) with
  | none => fail "unterminated address regex"
  | some units =>
      let whole ← expression units false
      return { whole with folds := ← foldsBehind (← room) }

def address? : Read (Option Address) := do
  match ← peek with
  | some '$' =>
      let _ ← take
      return some .last
  | some '/' =>
      let _ ← take
      return some (.covered (← coveredLines '/'))
  | some '\\' =>
      let _ ← take
      match ← take with
      | some mark => return some (.covered (← coveredLines mark))
      | none => fail "unexpected ','"
  | some unit =>
      if unit.isDigit then
        let first ← number
        skipBlanks
        match ← peek with
        | some '~' =>
            let _ ← take
            return some (.every first (← number))
        | _ => return some (.line first)
      else if unit == '+' || unit == '~' then
        let _ ← take
        let _ ← number
        fail "invalid usage of +N or ~N as first address"
      else return none
  | none => return none

def limit : Read Limit := do
  match ← peek with
  | some '+' =>
      let _ ← take
      return .more (← number)
  | some '~' =>
      let _ ← take
      return .multiple (← number)
  | _ =>
      match ← address? with
      | some (.line number) => return .line number
      | some (.every number _) => return .line number
      | some .last => return .last
      | some (.covered expression) => return .covered expression
      | none =>
          let _ ← take
          fail "unexpected \x60,'"

def endOfCommand : Read Unit := do
  skipBlanks
  match ← peek with
  | none | some '\x7d' | some '#' => pure ()
  | some unit =>
      let _ ← take
      if unit == '\n' || unit == ';' then pure () else fail "extra characters after command"

def label : Read Bytes := do
  skipBlanks
  return (← spanWhile fun unit => !isBlank unit && unit != '\n' && unit != ';').toBytes

def fileName : Read Bytes := do
  skipBlanks
  let name ← spanWhile (· != '\n')
  if name.isEmpty then fail "missing filename in r/R/w/W commands" else return name.toBytes

/-- Lines of text; a backslash keeps the unit behind it. -/
def textLines : (steps : Nat) → Read Units
  | 0 => return []
  | steps + 1 => do
      match ← take with
      | none | some '\n' => return ['\n']
      | some '\\' =>
          match ← take with
          | none => return ['\n']
          | some unit => return unit :: (← textLines steps)
      | some unit => return unit :: (← textLines steps)

def addedText : Read Bytes := do
  skipBlanks
  match ← peek with
  | none => fail "expected \\ after \x60a', \x60c' or \x60i'"
  | some '\\' =>
      let _ ← take
      let blanks ← spanWhile isBlank
      match ← peek with
      | none => return []
      | some '\n' =>
          let _ ← take
          return (← textLines (← room)).toBytes
      | some _ => return (blanks ++ (← textLines (← room))).toBytes
  | some _ => return (← textLines (← room)).toBytes

structure Flags where
  all : Bool := false
  prints : Bool := false
  folds : Bool := false
  number : Option Nat := none
  file : Option Bytes := none

def flags : (steps : Nat) → Flags → Read Flags
  | 0, given => return given
  | steps + 1, given => do
      match ← peek with
      | none | some '\x7d' | some '#' => return given
      | some unit =>
          if unit.isDigit then
            let value ← number
            if value = 0 then fail "number option to \x60s' command may not be zero"
            else if given.number.isSome then
              fail "multiple number options to \x60s' command"
            else flags steps { given with number := some value }
          else
            let _ ← take
            match unit with
            | '\n' | ';' => return given
            | 'g' =>
                if given.all then fail "multiple \x60g' options to \x60s' command"
                else flags steps { given with all := true }
            | 'p' =>
                if given.prints then fail "multiple \x60p' options to \x60s' command"
                else flags steps { given with prints := true }
            | 'i' | 'I' => flags steps { given with folds := true }
            | 'm' | 'M' => flags steps given
            | 'w' => return { given with file := some (← fileName) }
            | _ => if isBlank unit then flags steps given else fail "unknown option to \x60s'"

def lastGroup (pieces : List Piece) : Nat :=
  (pieces.map fun piece =>
    match piece with
    | .group number => number
    | _ => 0).foldl max 0

def substitution : Read Action := do
  let unfinished : Read Action := fail "unterminated \x60s' command"
  match ← take with
  | none => unfinished
  | some mark =>
      match ← pattern mark (← room) with
      | none => unfinished
      | some units =>
          match ← replacement mark (← room) with
          | none => unfinished
          | some text =>
              let given ← flags (← room) {}
              let found ← expression units given.folds
              let parts := pieces (text.length + 1) (plainEscapes (text.length + 1) text)
              let count := (found.regular.map Regular.groupCount).getD 9
              if count < lastGroup parts then
                fail ("invalid reference \\" ++ toString (lastGroup parts) ++
                  " on \x60s' command's RHS")
              else
                return .substitute
                  { expression := found
                    pieces := parts
                    all := given.all
                    prints := given.prints
                    number := given.number.getD 1
                    file := given.file }

def listed : Units → Units
  | '\\' :: unit :: rest => (control? unit).getD unit :: listed rest
  | unit :: rest => unit :: listed rest
  | [] => []

def transliteration : Read Action := do
  let unfinished : Read Action := fail "unterminated \x60y' command"
  match ← take with
  | none => unfinished
  | some mark =>
      match ← replacement mark (← room) with
      | none => unfinished
      | some sources =>
          match ← replacement mark (← room) with
          | none => unfinished
          | some targets =>
              let sources := (listed sources).toBytes
              let targets := (listed targets).toBytes
              if sources.length = targets.length then
                endOfCommand
                return .transliterate (sources.zip targets)
              else fail "strings for \x60y' command are different lengths"

def action (letter : Char) : Read Action := do
  let simple (action : Action) : Read Action := do
    endOfCommand
    return action
  let status : Read Nat := do
    skipBlanks
    let value ← number
    endOfCommand
    return value
  match letter with
  | '=' => simple .showNumber
  | 'F' => simple .showName
  | 'd' => simple (.delete false)
  | 'D' => simple (.delete true)
  | 'g' => simple (.recall false)
  | 'G' => simple (.recall true)
  | 'h' => simple (.keep false)
  | 'H' => simple (.keep true)
  | 'x' => simple .exchange
  | 'n' => simple (.next false)
  | 'N' => simple (.next true)
  | 'p' => simple (.print false)
  | 'P' => simple (.print true)
  | 'z' => simple .clear
  | 'l' =>
      skipBlanks
      if (← peek).any Char.isDigit then return .spell (some (← status))
      else simple (.spell none)
  | 'q' => return .quit true (← status)
  | 'Q' => return .quit false (← status)
  | 'a' => return .append (← addedText)
  | 'i' => return .insert (← addedText)
  | 'c' => return .change (← addedText)
  | 's' => substitution
  | 'y' => transliteration
  | 'r' => return .readFile (← fileName)
  | 'w' => return .writeFile (← fileName) false
  | 'W' => return .writeFile (← fileName) true
  | 'b' => return .jump .always (← jumpLabel)
  | 't' => return .jump .replaced (← jumpLabel)
  | 'T' => return .jump .notReplaced (← jumpLabel)
  | _ => fail ("unknown command: \x60" ++ String.singleton letter ++ "'")
where
  jumpLabel : Read Bytes := do
    let name ← label
    endOfCommand
    return name

def add (command : Command) : Read Unit :=
  modify fun source => { source with found := command :: source.found }

def closeBlock : Read Unit := do
  let source ← get
  match source.blocks with
  | [] => fail "unexpected \x60\x7d'"
  | start :: outer =>
      let count := source.found.length
      let place := count - 1 - start
      set { source with
        blocks := outer
        found := source.found.modify place fun command =>
          { command with action := .block count } }
      endOfCommand

def command (draft : Command) : Read Unit := do
  match ← take with
  | none | some '\n' => fail "missing command"
  | some '\x7b' =>
      let number := (← get).found.length
      add { draft with action := .block 0 }
      modify fun source => { source with blocks := number :: source.blocks }
  | some '\x7d' => closeBlock
  | some ':' =>
      if draft.address.isSome then fail ": doesn't want any addresses"
      else
        let name ← label
        if name.isEmpty then fail "\":\" lacks a label"
        else
          modify fun source =>
            { source with labels := (name, source.found.length) :: source.labels }
  | some letter =>
      if draft.begins && !(draft.limit matches some (.covered _)) then
        fail "invalid usage of line address 0"
      else if draft.limit.isSome && (letter == 'q' || letter == 'Q') then
        fail "command only uses one address"
      else add { draft with action := ← action letter }

def negation : Read Bool := do
  skipBlanks
  match ← peek with
  | some '!' =>
      let _ ← take
      skipBlanks
      if (← peek) == some '!' then
        let _ ← take
        fail "multiple \x60!'s"
      else return true
  | _ => return false

def commands : (steps : Nat) → Read Unit
  | 0 => pure ()
  | steps + 1 => do
      let _ ← spanWhile fun unit => isBlank unit || unit == ';' || unit == '\n'
      match ← peek with
      | none => pure ()
      | some '#' =>
          let _ ← spanWhile (· != '\n')
          commands steps
      | some _ =>
          let first ← address?
          skipBlanks
          let isRange := first.isSome && (← peek) == some ','
          let limit ←
            if isRange then do
              let _ ← take
              skipBlanks
              pure (some (← limit))
            else pure none
          let isNegated ← negation
          let begins := first matches some (.line 0)
          command
            { address := first, limit := limit, isNegated := isNegated, begins := begins
              action := .nothing }
          commands steps

end Read

def readPart (source : Source) (part : Nat) (text : Units) : Except Breakage Source :=
  let start := { source with part := part, size := text.length, text := text }
  match Read.commands (text.length + 2) start with
  | .ok (_, last) => .ok last
  | .error breakage => .error breakage

def readParts : Source → (part : Nat) → List Units → Except Breakage Source
  | source, _, [] => .ok source
  | source, part, text :: rest =>
      match readPart source part text with
      | .ok next => readParts next (part + 1) rest
      | .error breakage => .error breakage

def read (extended : Bool) (texts : List Units) : Except Breakage Script :=
  match readParts { extended := extended } 1 texts with
  | .error breakage => .error breakage
  | .ok source =>
      if source.blocks.isEmpty then
        .ok { commands := source.found.reverse, labels := source.labels }
      else .error { part := source.part, place := 0, message := "unmatched \x60\x7b'" }

def missingLabel? (script : Script) : Option Bytes :=
  script.commands.findSome? fun command =>
    match command.action with
    | .jump _ label =>
        if label.isEmpty || (script.labels.lookup label).isSome then none else some label
    | _ => none

end CompilerDriver.Machine.Program.Edit
