import CompilerDriver.Machine.Program.Amount
import CompilerDriver.Machine.Regular

/-!
Lines that hold what an expression covers. Lines are selected and shown, shown with others around
them, or counted, and what is shown can be the covered parts only. A file with a zero byte is only
said to match.
-/

namespace CompilerDriver.Machine.Program.Matching

open Kernel (Proc)

inductive Aim where
  | lines
  | parts
  | count
  | names (matching : Bool)
  | nothing
  deriving Repr, DecidableEq, Inhabited

structure Wish where
  aim : Aim := .lines
  folds : Bool := false
  inverts : Bool := false
  withNames : Bool := false
  withNumbers : Bool := false
  withOffsets : Bool := false
  isText : Bool := false
  most : Option Nat := none
  before : Nat := 0
  behind : Nat := 0
  hasGroups : Bool := false
  isSilent : Bool := false
  descends : Bool := false
  ending : UInt8 := 0x0A
  standardName : Bytes := []
  zeroNames : Bool := false
  deriving Inhabited

def table : Options.Table :=
  { letters := Options.plain "EFGivwxsnhHolLcqarzbyIuUTZ" ++
      [('e', .required), ('f', .required), ('m', .required), ('A', .required), ('B', .required),
       ('C', .required), ('D', .required), ('d', .required), ('R', .none)] ++
      "0123456789".toList.map fun digit => (digit, .none)
    names := [{ name := "extended-regexp", letter := 'E' },
      { name := "fixed-strings", letter := 'F' }, { name := "basic-regexp", letter := 'G' },
      { name := "regexp", operand := .required, letter := 'e' },
      { name := "file", operand := .required, letter := 'f' },
      { name := "ignore-case", letter := 'i' }, { name := "no-ignore-case", letter := '!' },
      { name := "word-regexp", letter := 'w' }, { name := "line-regexp", letter := 'x' },
      { name := "null-data", letter := 'z' }, { name := "no-messages", letter := 's' },
      { name := "invert-match", letter := 'v' },
      { name := "max-count", operand := .required, letter := 'm' },
      { name := "byte-offset", letter := 'b' }, { name := "line-number", letter := 'n' },
      { name := "line-buffered", letter := 'u' }, { name := "with-filename", letter := 'H' },
      { name := "no-filename", letter := 'h' },
      { name := "label", operand := .required, letter := '=' },
      { name := "only-matching", letter := 'o' }, { name := "quiet", letter := 'q' },
      { name := "silent", letter := 'q' }, { name := "text", letter := 'a' },
      { name := "recursive", letter := 'r' }, { name := "dereference-recursive", letter := 'R' },
      { name := "files-without-match", letter := 'L' },
      { name := "files-with-matches", letter := 'l' }, { name := "count", letter := 'c' },
      { name := "null", letter := 'Z' },
      { name := "before-context", operand := .required, letter := 'B' },
      { name := "after-context", operand := .required, letter := 'A' },
      { name := "context", operand := .required, letter := 'C' },
      { name := "color", operand := .optional, letter := '%' },
      { name := "colour", operand := .optional, letter := '%' },
      { name := "no-group-separator", letter := '~' }] }

def usage : String :=
  "Usage: grep [OPTION]... PATTERNS [FILE]...\nTry 'grep --help' for more information.\n"

def digitsOf (given : List Options.Given) : Bytes :=
  (given.filter fun option => option.letter.isDigit).map fun option =>
    UInt8.ofNat option.letter.toNat

def amount? (word : Bytes) : Option Nat :=
  if !word.isEmpty && word.all Amount.isDigit then some (Amount.digitsValue word) else none

def around (given : List Options.Given) (letter : Char) : Except Bytes Nat :=
  let digits := digitsOf given
  match (Options.word? letter given).or (Options.word? 'C' given) with
  | none => .ok (if digits.isEmpty then 0 else Amount.digitsValue digits)
  | some word =>
      match amount? word with
      | some count => .ok count
      | none => .error (word ++ Bytes.ofText ": invalid context length argument")

def aimOf (given : List Options.Given) : Aim :=
  let has (letter : Char) := Options.has letter given
  if has 'q' then .nothing
  else
    match Options.last? ['l', 'L'] given with
    | some option => .names (option.letter == 'l')
    | none => if has 'c' then .count else if has 'o' then .parts else .lines

def wish (given : List Options.Given) (hasMany : Bool) : Except Bytes Wish :=
  let has (letter : Char) := Options.has letter given
  match around given 'B', around given 'A', (Options.word? 'm' given).map amount? with
  | .error message, _, _ | _, .error message, _ => .error message
  | _, _, some none => .error (Bytes.ofText "invalid max count")
  | .ok before, .ok behind, most =>
      let names := (Options.last? ['h', 'H'] given).map Options.Given.letter
      .ok
        { aim := aimOf given
          folds := (Options.last? ['i', 'y', '!'] given).any fun option => option.letter != '!'
          inverts := has 'v'
          withNames := names == some 'H' || (names.isNone && (hasMany || has 'r' || has 'R'))
          withNumbers := has 'n'
          withOffsets := has 'b'
          isText := has 'a' || has 'z'
          most := most.bind id
          before := before
          behind := behind
          hasGroups := 0 < before + behind && !has '~'
          isSilent := has 's'
          descends := has 'r' || has 'R'
          ending := if has 'z' then 0 else 0x0A
          standardName := (Options.word? '=' given).getD (Bytes.ofText "(standard input)")
          zeroNames := has 'Z' }

def expression (given : List Options.Given) (text : Bytes) : Except Bytes Regular :=
  let kind := (Options.last? ['E', 'F', 'G'] given).map Options.Given.letter
  let isClass := [0x5B, 0x3A].isPrefixOf text && [0x3A, 0x5D].isSuffixOf text
  let read : Except Regular.Trouble Regular :=
    if kind == some 'F' then .ok (Regular.ofText text)
    else Regular.readWith (kind == some 'E') (kind == some 'E') text
  if isClass && kind != some 'F' then
    .error (Bytes.ofText "character class syntax is [[:space:]], not [:space:]")
  else
    match read with
    | .error trouble => .error (Bytes.ofText trouble.message)
    | .ok regular =>
        .ok <|
          if Options.has 'x' given then regular.between .textStart .textEnd
          else if Options.has 'w' given then regular.between .behindNoWord .beforeNoWord
          else regular

def readAll (given : List Options.Given) : List Bytes → Except Bytes (List Regular)
  | [] => .ok []
  | text :: rest =>
      match expression given text, readAll given rest with
      | .ok regular, .ok others => .ok (regular :: others)
      | .error message, _ | _, .error message => .error message

def textsOf (word : Bytes) : List Bytes :=
  Path.splitAt 0x0A word

/-- Where the search in a file stands. Lines are numbered from one. -/
structure Tally where
  number : Nat := 0
  offset : Nat := 0
  selected : Nat := 0
  /-- The latest lines that were not shown, the latest one first. -/
  held : List (Nat × Nat × Bytes) := []
  /-- How many lines are still to be shown behind a selected one. -/
  owed : Nat := 0
  lastShown : Option Nat := none
  isBinary : Bool := false
  deriving Inhabited

def written (wish : Wish) (title : Bytes) (mark : UInt8) (number offset : Nat) (text : Bytes) :
    Bytes :=
  (if !wish.withNames then []
    else title ++ [if wish.zeroNames then 0 else mark]) ++
  (if wish.withNumbers then Bytes.ofText (toString number) ++ [mark] else []) ++
  (if wish.withOffsets then Bytes.ofText (toString offset) ++ [mark] else []) ++
  text ++ [wish.ending]

def partsFrom (folds : Bool) (regular : Regular) : (steps : Nat) → Regular.Spot →
    List (Nat × Bytes)
  | 0, _ => []
  | steps + 1, spot =>
      match regular.search folds spot with
      | none => []
      | some found =>
          if found.stop.position = found.start.position then
            match found.stop.next? with
            | some next => partsFrom folds regular steps next
            | none => []
          else
            (found.start.position, found.text) :: partsFrom folds regular steps found.stop

def separatorLine : Bytes :=
  Bytes.ofText "--\n"

def selectedText (wish : Wish) (title : Bytes) (regular : Option Regular) (tally : Tally)
    (line : Bytes) : Bytes :=
  let parts : Bytes :=
    match regular with
    | none => []
    | some regular =>
        (partsFrom wish.folds regular (line.length + 1) { rest := line }).flatMap fun part =>
          written wish title 0x3A tally.number (tally.offset + part.1) part.2
  let first := (tally.held.getLast?.map Prod.fst).getD tally.number
  let gap : Bytes :=
    if wish.hasGroups && tally.lastShown.any (· + 1 < first) then separatorLine else []
  match wish.aim with
  | .lines =>
      gap ++
        (tally.held.reverse.flatMap fun entry =>
          written wish title 0x2D entry.1 entry.2.1 entry.2.2) ++
        written wish title 0x3A tally.number tally.offset line
  | .parts => gap ++ if wish.inverts then [] else parts
  | _ => []

def look (wish : Wish) (title : Bytes) (regular : Option Regular) (before : Tally)
    (whole : Bytes) : Tally × Bytes :=
  let line := Input.bare wish.ending whole
  let tally := { before with number := before.number + 1 }
  let next := { tally with offset := tally.offset + whole.length }
  let isCovered := regular.any fun regular => (regular.search wish.folds { rest := line }).isSome
  let isFull := wish.most.any (· ≤ tally.selected)
  if isCovered != wish.inverts && !isFull then
    let shown : Bytes :=
      if tally.isBinary then [] else selectedText wish title regular tally line
    ({ next with
        selected := tally.selected + 1, held := [], owed := wish.behind,
        lastShown := some tally.number }, shown)
  else if 0 < tally.owed then
    let shown : Bytes :=
      if wish.aim = .lines && !tally.isBinary then
        written wish title 0x2D tally.number tally.offset line
      else []
    ({ next with owed := tally.owed - 1, lastShown := some tally.number }, shown)
  else
    ({ next with held := ((tally.number, tally.offset, line) :: tally.held).take wish.before }, [])

def isDone (wish : Wish) (tally : Tally) : Bool :=
  let isFull := wish.most.any fun most => most ≤ tally.selected && tally.owed = 0
  let isSettled :=
    0 < tally.selected &&
      match wish.aim with
      | .names _ | .nothing => true
      | .count => false
      | _ => tally.isBinary
  isFull || isSettled

/-- Searches what can be read from a channel, and finds out first whether it is text. -/
def searchChannel (wish : Wish) (title : Bytes) (regular : Option Regular) (channel : Nat) :
    Proc (Tally × Option OsError) := do
  let take (held : Input.Partial (Tally × Bool)) (piece : Bytes) :
      Input.Taken (Input.Partial (Tally × Bool)) :=
    let (tally, hasBegun) := held.state
    let isBinary := tally.isBinary || (!hasBegun && !wish.isText && piece.contains 0)
    let lines := Input.linesOf wish.ending (held.begun ++ piece)
    let isCut := piece.getLast? != some wish.ending
    let whole := if isCut then lines.dropLast else lines
    let guarded (tally : Tally) (line : Bytes) : Tally × Bytes :=
      if isDone wish tally then (tally, []) else look wish title regular tally line
    let (next, output) := Input.throughLines guarded { tally with isBinary := isBinary } whole
    { state :=
        { state := (next, true), begun := if isCut then lines.getLast?.getD [] else [] }
      output := output
      left := if isDone wish next then some 0 else none }
  let start : Input.Partial (Tally × Bool) := { state := ({}, false) }
  let (last, ending) ← Input.stream channel start take
  let error : Option OsError :=
    match ending with
    | .unread error => some error
    | _ => none
  let tally := last.state.1
  if last.begun.isEmpty || isDone wish tally then return (tally, error)
  else
    let (next, output) := look wish title regular tally last.begun
    let _ ← Proc.write 1 output
    return (next, error)

def summary (wish : Wish) (title : Bytes) (tally : Tally) : Bytes :=
  let isFound := 0 < tally.selected
  match wish.aim with
  | .count =>
      (if wish.withNames then title ++ [if wish.zeroNames then 0 else 0x3A] else []) ++
        Bytes.ofText (toString tally.selected) ++ [0x0A]
  | .names matching =>
      if isFound == matching then title ++ [if wish.zeroNames then 0 else 0x0A] else []
  | _ => []

/-- Whether lines were found in the files, and whether there was trouble. -/
structure Outcome where
  isFound : Bool := false
  isTroubled : Bool := false

def Outcome.also (one other : Outcome) : Outcome :=
  { isFound := one.isFound || other.isFound, isTroubled := one.isTroubled || other.isTroubled }

def complainUnless (wish : Wish) (call : Call) (file : Bytes) (error : OsError) :
    Proc Outcome := do
  unless wish.isSilent do complainOf call file error
  return { isTroubled := true }

def below (tree : FileTree) : (depth : Nat) → Bytes → List Bytes
  | 0, path => [path]
  | depth + 1, path =>
      match tree.look ⟨path⟩ with
      | .ok (place, .directory) =>
          (tree.children place).flatMap fun name =>
            below tree depth (if path.isEmpty then name else path ++ Path.slash :: name)
      | _ => [path]

def depthLimit : Nat := 1000

def searchFile (call : Call) (wish : Wish) (regular : Option Regular) (file : Bytes) :
    Proc Outcome := do
  let title := if Input.isStandard file then wish.standardName else file
  match ← Input.opened file with
  | .error error => complainUnless wish call file error
  | .ok channel =>
      let (tally, error) ← searchChannel wish title regular channel
      Input.close channel
      let isFound := 0 < tally.selected
      let _ ← Proc.write 1 (summary wish title tally)
      if isFound && tally.isBinary && [.lines, .parts].contains wish.aim then
        complain call (title ++ Bytes.ofText ": binary file matches")
      match error with
      | none => return { isFound := isFound }
      | some error =>
          let told ← complainUnless wish call title error
          return { isFound := isFound, isTroubled := told.isTroubled }

def searchAll (call : Call) (wish : Wish) (regular : Option Regular) : List Bytes → Proc Outcome
  | [] => return {}
  | file :: rest => do
      let outcome ← searchFile call wish regular file
      if wish.aim = .nothing && outcome.isFound then return outcome
      else return outcome.also (← searchAll call wish regular rest)

def gather (given : List Options.Given) (words : List Bytes) :
    Proc (Except (Option Bytes) (List Bytes × List Bytes)) := do
  let fromFiles ← collectFiles (given.filterMap fun option =>
    if option.letter == 'f' then option.word else none)
  let fromOptions := given.filterMap fun option =>
    if option.letter == 'e' then option.word else none
  match fromFiles with
  | .error message => return .error (some message)
  | .ok texts =>
      if Options.has 'e' given || Options.has 'f' given then
        return .ok (fromOptions.flatMap textsOf ++ texts, words)
      else
        match words with
        | [] => return .error none
        | word :: rest => return .ok (textsOf word, rest)
where
  collectFiles : List Bytes → Proc (Except Bytes (List Bytes))
    | [] => return .ok []
    | file :: rest => do
        match ← Input.all file with
        | .error error => return .error (file ++ Bytes.ofText (": " ++ reason error))
        | .ok (text, _) =>
            return (← collectFiles rest).map fun others => Input.bareLines 0x0A text ++ others

def program : Program := fun call => do
  match Options.take table call.arguments with
  | .error message =>
      complain call message
      warn (Bytes.ofText usage)
      return 2
  | .ok (given, words) =>
      match ← gather given words with
      | .error none =>
          warn (Bytes.ofText usage)
          return 2
      | .error (some message) =>
          complain call message
          return 2
      | .ok (texts, files) =>
          match wish given (1 < files.length), readAll given texts with
          | .error message, _ | _, .error message =>
              complain call message
              return 2
          | .ok wish, .ok regulars =>
              let standard : List Bytes := [if wish.descends then [] else [0x2D]]
              let named := if files.isEmpty then standard else files
              let chosen ←
                if wish.descends then
                  Proc.ask fun number kernel =>
                    named.flatMap (below (kernel.treeOf number) depthLimit)
                else pure named
              let outcome ← searchAll call wish (Regular.anyOf regulars) chosen
              if wish.aim = .nothing && outcome.isFound then return 0
              else if outcome.isTroubled then return 2
              else return if outcome.isFound then 0 else 1

end CompilerDriver.Machine.Program.Matching
