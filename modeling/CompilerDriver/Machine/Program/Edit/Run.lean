import CompilerDriver.Machine.Program.Edit.Form
import CompilerDriver.Machine.Program.Input

/-!
Editing lines with a script. Each line in turn is put into a space, where the commands that are for
it change it, and is printed at the end unless that was switched off. A second space keeps text from
line to line. What is put behind a line waits until the line is done.
-/

namespace CompilerDriver.Machine.Program.Edit

open Kernel (Proc)
open Shell (Units)

structure Setting where
  script : Script
  isQuiet : Bool := false
  /-- Whether each file is counted from its own first line. -/
  isSeparate : Bool := false
  ending : UInt8 := 0x0A
  width : Nat := 70
  deriving Inhabited

/-- Where lines come from: the file that is open, what was read of it, and the files behind it. -/
structure Feed where
  files : List Bytes := []
  channel : Option Nat := none
  name : Bytes := [0x2D]
  held : Bytes := []
  isDrained : Bool := false

inductive Waiting where
  | text (text : Bytes)
  | file (path : Bytes)

structure State where
  feed : Feed
  /-- The line that comes next, if it was looked at already, and whether it had an end. -/
  ahead : Option (Bytes × Bool) := none
  pattern : Bytes := []
  hold : Bytes := []
  /-- Whether the line that was read last had an end. -/
  hadEnd : Bool := true
  /-- Whether the last line that was written still lacks its end. -/
  lacksEnd : Bool := false
  number : Nat := 0
  isReplaced : Bool := false
  /-- The ranges that have begun, by the number of their command, with the line they end at. -/
  ranges : List (Nat × Option Nat) := []
  waiting : List Waiting := []
  latest : Option Expression := none
  writers : List (Bytes × Nat) := []
  /-- Where what is printed is collected, if it does not go to standard output. -/
  collected : Option Bytes := none
  status : Nat := 0

abbrev Session := StateT State Proc

namespace Session

def act {α : Type} (action : Proc α) : Session α := fun state => do
  return (← action, state)

def put (bytes : Bytes) : Session Unit := do
  match (← get).collected with
  | some before => modify fun state => { state with collected := some (before ++ bytes) }
  | none =>
      let _ ← act (Proc.write 1 bytes)

def putMissingEnd (setting : Setting) : Session Unit := do
  if (← get).lacksEnd then
    put [setting.ending]
    modify fun state => { state with lacksEnd := false }

def putText (setting : Setting) (text : Bytes) : Session Unit := do
  putMissingEnd setting
  put text

def putLine (setting : Setting) (line : Bytes) : Session Unit := do
  putMissingEnd setting
  let hadEnd := (← get).hadEnd
  put (if hadEnd then line ++ [setting.ending] else line)
  modify fun state => { state with lacksEnd := !hadEnd }

def standardOutput : Bytes := Bytes.ofText "/dev/stdout"

def writeTo (setting : Setting) (path line : Bytes) : Session Unit := do
  if path = standardOutput then putLine setting line
  else
    match (← get).writers.lookup path with
    | some channel =>
        let _ ← act (Proc.write channel (line ++ [setting.ending]))
    | none => pure ()

def complainFile (call : Call) (message : Bytes) (status : Nat) : Session Unit := do
  act (complain call message)
  modify fun state => { state with status := worse state.status status }

def openNext (call : Call) (setting : Setting) : (files : List Bytes) → Session Bool
  | [] => do
      modify fun state => { state with feed := { state.feed with files := [] } }
      return false
  | file :: rest => do
      match ← act (Input.opened file) with
      | .ok channel =>
          modify fun state =>
            { state with
              feed := { files := rest, channel := some channel, name := file }
              number := if setting.isSeparate then 0 else state.number }
          return true
      | .error error =>
          complainFile call
            (Bytes.ofText "can't read " ++ file ++ Bytes.ofText (": " ++ reason error)) 2
          openNext call setting rest

def fetch (call : Call) (setting : Setting) : (steps : Nat) → Session (Option (Bytes × Bool))
  | 0 => return none
  | steps + 1 => do
      let feed := (← get).feed
      let (line, behind) := feed.held.span (· != setting.ending)
      match behind, feed.isDrained, feed.channel with
      | _ :: rest, _, _ =>
          modify fun state => { state with feed := { feed with held := rest } }
          return some (line, true)
      | [], true, _ =>
          act (Input.close (feed.channel.getD 0))
          modify fun state =>
            { state with feed := { feed with held := [], isDrained := false, channel := none } }
          if line.isEmpty then fetch call setting steps else return some (line, false)
      | [], false, none =>
          if ← openNext call setting feed.files then fetch call setting steps else return none
      | [], false, some channel =>
          match ← act (Proc.read channel Proc.pieceSize) with
          | .ok [] => modify fun state => { state with feed := { feed with isDrained := true } }
          | .ok piece =>
              modify fun state => { state with feed := { feed with held := feed.held ++ piece } }
          | .error error =>
              complainFile call
                (Bytes.ofText "read error on " ++ Input.title feed.name ++
                  Bytes.ofText (": " ++ reason error)) 4
              modify fun state =>
                { state with feed := { feed with isDrained := true, files := [] } }
          fetch call setting steps

def fetchLimit : Nat := 1000000000

def lookAhead (call : Call) (setting : Setting) : Session (Option (Bytes × Bool)) := do
  match (← get).ahead with
  | some line => return some line
  | none =>
      let line ← fetch call setting fetchLimit
      modify fun state => { state with ahead := line }
      return line

/-- Whether the line that was taken is the last one. Where files are separate, that is the last line
of its file. -/
def isLast (call : Call) (setting : Setting) : Session Bool := do
  if setting.isSeparate && (← get).ahead.isNone then
    let files := (← get).feed.files
    modify fun state => { state with feed := { state.feed with files := [] } }
    let next ← lookAhead call setting
    modify fun state => { state with feed := { state.feed with files := files } }
    return next.isNone
  else return (← lookAhead call setting).isNone

def takeLine (call : Call) (setting : Setting) : Session (Option Bytes) := do
  match ← lookAhead call setting with
  | none => return none
  | some (line, hadEnd) =>
      modify fun state =>
        { state with ahead := none, number := state.number + 1, hadEnd := hadEnd }
      return some line

def settle (expression : Expression) : Session (Option Expression) := do
  match expression.regular with
  | some _ =>
      modify fun state => { state with latest := some expression }
      return some expression
  | none => return (← get).latest

def fits (call : Call) (setting : Setting) (address : Address) : Session (Option Bool) := do
  let state ← get
  match address with
  | .line number => return some (state.number == number)
  | .every first step =>
      return some (if step = 0 then state.number == first
        else first ≤ state.number && (state.number - first) % step == 0)
  | .last => return some (← isLast call setting)
  | .covered expression =>
      match ← settle expression with
      | some { regular := some regular, folds := folds } =>
          return some (regular.search folds { rest := state.pattern }).isSome
      | _ => return none

/-- The line at which a range ends that begins now, if that is known. Nothing if it is one line
long. -/
def endOf (limit : Limit) (number : Nat) : Option (Option Nat) :=
  let upTo (last : Nat) : Option (Option Nat) := if last ≤ number then none else some (some last)
  match limit with
  | .line last => upTo last
  | .more count => upTo (number + count)
  | .multiple factor =>
      if factor = 0 then none else upTo ((number + factor - 1) / factor * factor)
  | .last | .covered _ => some none

def setRange (index : Nat) (range : Option (Option Nat)) : Session Unit :=
  modify fun state =>
    let others := Kernel.dropKey state.ranges index
    { state with
      ranges :=
        match range with
        | some stop => (index, stop) :: others
        | none => others }

/-- Whether a command is for the line. Nothing if its expression is missing. -/
def isChosen (call : Call) (setting : Setting) (index : Nat) (command : Command) :
    Session (Option Bool) := do
  let state ← get
  match command.address, command.limit, state.ranges.lookup index with
  | none, _, _ => return some true
  | some address, none, _ => fits call setting address
  | some _, some limit, some stop =>
      match stop, limit with
      | some last, _ =>
          if last ≤ state.number then setRange index none
          return some (state.number ≤ last)
      | none, .last =>
          if ← isLast call setting then setRange index none
          return some true
      | none, .covered expression =>
          match ← fits call setting (.covered expression) with
          | none => return none
          | some isEnd =>
              if isEnd then setRange index none
              return some true
      | none, _ => return some true
  | some address, some limit, none =>
      match ← fits call setting address with
      | none => return none
      | some false => return some false
      | some true =>
          setRange index (endOf limit state.number)
          return some true

def sized (sizing : Sizing) (one : Option Sizing) (text : Bytes) : Bytes :=
  let whole :=
    match sizing with
    | .upper => text.map ByteSet.upper
    | .lower => text.map ByteSet.lower
    | _ => text
  match one, whole with
  | some .upperOne, first :: rest => ByteSet.upper first :: rest
  | some .lowerOne, first :: rest => ByteSet.lower first :: rest
  | _, _ => whole

def filled (found : Regular.Found) : List Piece → Sizing → Option Sizing → Bytes
  | [], _, _ => []
  | piece :: rest, sizing, one =>
      let give (text : Bytes) : Bytes :=
        if text.isEmpty then filled found rest sizing one
        else sized sizing one text ++ filled found rest sizing none
      match piece with
      | .text units => give units.toBytes
      | .group 0 => give found.text
      | .group number => give ((found.stop.groups.lookup number).getD [])
      | .sizing .upperOne => filled found rest sizing (some .upperOne)
      | .sizing .lowerOne => filled found rest sizing (some .lowerOne)
      | .sizing other => filled found rest other none

/-- The text behind a spot with its parts replaced, from the wanted one on, and whether there was
one. -/
def replaceFrom (substitution : Substitution) (regular : Regular) (folds : Bool) :
    (steps : Nat) → (count : Nat) → (afterPart : Bool) → Regular.Spot → Bytes × Bool
  | 0, _, _, spot => (spot.rest, false)
  | steps + 1, count, afterPart, spot =>
      match regular.search folds spot with
      | none => (spot.rest, false)
      | some found =>
          let front := spot.rest.take (found.start.position - spot.position)
          let isEmpty := found.stop.position = found.start.position
          let goOn (count : Nat) (afterPart : Bool) (shown : Bytes) (isDone : Bool) :
              Bytes × Bool :=
            if isEmpty then
              match found.stop.next? with
              | none => (front ++ shown, isDone)
              | some next =>
                  let (rest, more) := replaceFrom substitution regular folds steps count false next
                  (front ++ shown ++ next.before.toList ++ rest, isDone || more)
            else
              let (rest, more) :=
                replaceFrom substitution regular folds steps count afterPart found.stop
              (front ++ shown ++ rest, isDone || more)
          if isEmpty && afterPart && front.isEmpty then goOn count false [] false
          else if count + 1 < substitution.number then goOn (count + 1) true found.text false
          else
            let shown := filled found substitution.pieces .asIs none
            if substitution.all then goOn (count + 1) true shown true
            else (front ++ shown ++ found.stop.rest, true)

def spelledUnit (byte : UInt8) : List Char :=
  let escapes : List (UInt8 × Char) :=
    [(0x5C, '\\'), (0x07, 'a'), (0x08, 'b'), (0x0C, 'f'), (0x0A, 'n'), (0x0D, 'r'), (0x09, 't'),
     (0x0B, 'v')]
  match escapes.lookup byte with
  | some letter => ['\\', letter]
  | none =>
      if 0x20 ≤ byte && byte < 0x7F then [Char.ofNat byte.toNat]
      else
        let digits := Nat.toDigits 8 byte.toNat
        '\\' :: List.replicate (3 - digits.length) '0' ++ digits

def wrapped (width : Nat) : (column : Nat) → List (List Char) → List Char
  | _, [] => ['$', '\n']
  | column, unit :: rest =>
      if 1 < width && width - 1 < column + unit.length then
        '\\' :: '\n' :: unit ++ wrapped width unit.length rest
      else unit ++ wrapped width (column + unit.length) rest

/-! ### Commands -/

inductive Flow where
  | onward
  | goto (index : Nat)
  | done
  | dropped
  | again
  | quit (prints : Bool) (status : Nat)
  | noExpression

def firstLine (text : Bytes) : Bytes :=
  text.takeWhile (· != 0x0A)

def wait (waiting : Waiting) : Session Unit :=
  modify fun state => { state with waiting := state.waiting ++ [waiting] }

def settleWaiting (setting : Setting) : List Waiting → Session Unit
  | [] => modify fun state => { state with waiting := [] }
  | item :: rest => do
      match item with
      | .text text => putText setting text
      | .file path =>
          match ← act (Input.all path) with
          | .ok (text, _) => if text.isEmpty then pure () else putText setting text
          | .error _ => pure ()
      settleWaiting setting rest

def finishLine (setting : Setting) (prints : Bool) : Session Unit := do
  if prints && !setting.isQuiet then putLine setting (← get).pattern
  settleWaiting setting (← get).waiting

def replace (setting : Setting) (substitution : Substitution) : Session Flow := do
  match ← settle substitution.expression with
  | some { regular := some regular, folds := folds } =>
      let before := (← get).pattern
      let (text, isDone) :=
        replaceFrom substitution regular (folds || substitution.expression.folds)
          (before.length + 2) 0 false { rest := before }
      if isDone then
        modify fun state => { state with pattern := text, isReplaced := true }
        if substitution.prints then putLine setting text
        match substitution.file with
        | some path => writeTo setting path text
        | none => pure ()
      return .onward
  | _ => return .noExpression

def nextLine (call : Call) (setting : Setting) (appends : Bool) : Session Flow := do
  if ← isLastOfAll then return .quit true 0
  else
    if appends then settleWaiting setting (← get).waiting
    else finishLine setting true
    let before := (← get).pattern
    match ← takeLine call setting with
    | none => return .quit false 0
    | some line =>
        modify fun state =>
          { state with pattern := if appends then before ++ setting.ending :: line else line }
        return .onward
where
  isLastOfAll : Session Bool := do
    return (← lookAhead call setting).isNone

def perform (call : Call) (setting : Setting) (command : Command) (index : Nat) : Session Flow := do
  let state ← get
  let set (change : State → State) : Session Flow := do
    modify change
    return .onward
  match command.action with
  | .block _ | .nothing => return .onward
  | .jump condition label =>
      let goes : Bool :=
        match condition with
        | .always => true
        | .replaced => state.isReplaced
        | .notReplaced => !state.isReplaced
      if condition != .always then modify fun state => { state with isReplaced := false }
      if !goes then return .onward
      else if label.isEmpty then return .done
      else return .goto ((setting.script.labels.lookup label).getD 0)
  | .showNumber =>
      putText setting (Bytes.ofText (toString state.number ++ "\n"))
      return .onward
  | .showName =>
      putText setting (state.feed.name ++ [0x0A])
      return .onward
  | .delete false => return .dropped
  | .delete true =>
      if state.pattern.contains 0x0A then
        modify fun state =>
          { state with pattern := (state.pattern.dropWhile (· != 0x0A)).drop 1 }
        return .again
      else return .dropped
  | .recall false => set fun state => { state with pattern := state.hold }
  | .recall true => set fun state => { state with pattern := state.pattern ++ 0x0A :: state.hold }
  | .keep false => set fun state => { state with hold := state.pattern }
  | .keep true => set fun state => { state with hold := state.hold ++ 0x0A :: state.pattern }
  | .exchange => set fun state => { state with pattern := state.hold, hold := state.pattern }
  | .spell width =>
      putText setting
        (Units.toBytes
          (wrapped (width.getD setting.width) 0 (state.pattern.map spelledUnit)))
      return .onward
  | .next appends => nextLine call setting appends
  | .print false =>
      putLine setting state.pattern
      return .onward
  | .print true =>
      putText setting (firstLine state.pattern ++ [setting.ending])
      return .onward
  | .quit prints status => return .quit prints status
  | .append text =>
      wait (.text text)
      return .onward
  | .insert text =>
      putText setting text
      return .onward
  | .change text =>
      let isOpen := command.limit.isSome && !command.isNegated &&
        (state.ranges.lookup index).isSome
      unless isOpen do putText setting text
      return .dropped
  | .substitute substitution => replace setting substitution
  | .transliterate pairs =>
      set fun state =>
        { state with pattern := state.pattern.map fun byte => (pairs.lookup byte).getD byte }
  | .readFile path =>
      wait (.file path)
      return .onward
  | .writeFile path isFirst =>
      writeTo setting path (if isFirst then firstLine state.pattern else state.pattern)
      return .onward
  | .clear => set fun state => { state with pattern := [] }

def commandsFrom (call : Call) (setting : Setting) : (steps : Nat) → (index : Nat) → Session Flow
  | 0, _ => return .done
  | steps + 1, index => do
      match setting.script.commands[index]? with
      | none => return .done
      | some command =>
          match ← isChosen call setting index command with
          | none => return .noExpression
          | some isFitting =>
              if isFitting == command.isNegated then
                match command.action with
                | .block stop => commandsFrom call setting steps stop
                | _ => commandsFrom call setting steps (index + 1)
              else
                match ← perform call setting command index with
                | .onward => commandsFrom call setting steps (index + 1)
                | .goto other => commandsFrom call setting steps other
                | flow => return flow

def stepLimit : Nat := 1000000000

/-- All lines, one after another. `isKept` says that the space still holds text of the line
before. -/
def lines (call : Call) (setting : Setting) : (steps : Nat) → (isKept : Bool) → Session Nat
  | 0, _ => return 0
  | steps + 1, isKept => do
      let isThere ←
        if isKept then pure true
        else
          match ← takeLine call setting with
          | none => pure false
          | some line =>
              modify fun state => { state with pattern := line }
              pure true
      if !isThere then return (← get).status
      else
        modify fun state => { state with isReplaced := false }
        match ← commandsFrom call setting stepLimit 0 with
        | .quit prints status =>
            finishLine setting prints
            return worse (← get).status status
        | .noExpression =>
            act (complain call
              (Bytes.ofText "-e expression #1, char 0: no previous regular expression"))
            return 1
        | .dropped =>
            finishLine setting false
            lines call setting steps false
        | .again =>
            finishLine setting false
            lines call setting steps true
        | _ =>
            finishLine setting true
            lines call setting steps false

end Session

/-! ### The program -/

def writtenFiles (script : Script) : List Bytes :=
  (script.commands.filterMap fun command =>
    match command.action with
    | .writeFile path _ => some path
    | .substitute substitution => substitution.file
    | _ => none).eraseDups.filter (· != Session.standardOutput)

def openWriters : List Bytes → Proc (List (Bytes × Nat))
  | [] => return []
  | path :: rest => do
      let channel ← Proc.act fun number kernel =>
        let channel := kernel.unused number 3
        match kernel.openFile number channel path .output with
        | .ok next => (some channel, next)
        | .error _ => (none, kernel)
      let others ← openWriters rest
      return match channel with
        | some channel => (path, channel) :: others
        | none => others

def startRanges (script : Script) : List (Nat × Option Nat) :=
  (script.commands.zipIdx.filter fun entry => entry.1.begins).map fun entry => (entry.2, none)

def editAll (call : Call) (setting : Setting) (writers : List (Bytes × Nat))
    (files : List Bytes) : Proc Nat := do
  let start : State :=
    { feed := { files := files }
      writers := writers
      ranges := startRanges setting.script }
  let (status, last) ← StateT.run (Session.lines call setting Session.stepLimit false) start
  return worse status last.status

def putFile (path text : Bytes) : Proc Unit := do
  let opened ← Proc.act fun number kernel =>
    let channel := kernel.unused number 3
    match kernel.openFile number channel path .output with
    | .ok next => (some channel, next)
    | .error _ => (none, kernel)
  match opened with
  | none => pure ()
  | some channel =>
      let _ ← Proc.write channel text
      Input.close channel

/-- The name under which a file is kept: a suffix with a star says where its name stands. -/
def keptName (path suffix : Bytes) : Bytes :=
  if suffix.contains 0x2A then suffix.flatMap fun byte => if byte = 0x2A then path else [byte]
  else path ++ suffix

def replaceFile (path text : Bytes) (suffix : Option Bytes) (old : Bytes) : Proc Unit := do
  match suffix with
  | some suffix => putFile (keptName path suffix) old
  | none => pure ()
  putFile path text

def editInPlace (call : Call) (setting : Setting) (writers : List (Bytes × Nat))
    (suffix : Option Bytes) : List Bytes → Proc Nat
  | [] => return 0
  | file :: rest => do
      match ← Proc.ask fun number kernel => kernel.readFile number file with
      | .error .isDirectory =>
          complain call (Bytes.ofText "couldn't edit " ++ file ++
            Bytes.ofText ": not a regular file")
          return worse 4 (← editInPlace call setting writers suffix rest)
      | .error error =>
          complain call (Bytes.ofText "can't read " ++ file ++ Bytes.ofText (": " ++ reason error))
          return worse 2 (← editInPlace call setting writers suffix rest)
      | .ok old =>
          let start : State :=
            { feed := { files := [file] }
              writers := writers
              ranges := startRanges setting.script
              collected := some [] }
          let (status, last) ← StateT.run (Session.lines call setting Session.stepLimit false) start
          replaceFile file (last.collected.getD []) suffix old
          return worse (worse status last.status) (← editInPlace call setting writers suffix rest)

def table : Options.Table :=
  { letters := Options.plain "nErsuz" ++
      [('e', .required), ('f', .required), ('i', .optional), ('l', .required)]
    names := [{ name := "quiet", letter := 'n' }, { name := "silent", letter := 'n' },
      { name := "expression", operand := .required, letter := 'e' },
      { name := "file", operand := .required, letter := 'f' },
      { name := "in-place", operand := .optional, letter := 'i' },
      { name := "line-length", operand := .required, letter := 'l' },
      { name := "regexp-extended", letter := 'E' }, { name := "separate", letter := 's' },
      { name := "unbuffered", letter := 'u' }, { name := "null-data", letter := 'z' },
      { name := "posix", letter := '!' }, { name := "debug", letter := '!' },
      { name := "sandbox", letter := '!' }] }

def usage : String :=
  "Usage: sed [OPTION]... \x7bscript-only-if-no-other-script\x7d [input-file]...\n\n" ++
  "  -n, --quiet, --silent\n                 suppress automatic printing of pattern space\n" ++
  "      --debug\n                 annotate program execution\n" ++
  "  -e script, --expression=script\n" ++
  "                 add the script to the commands to be executed\n" ++
  "  -f script-file, --file=script-file\n" ++
  "                 add the contents of script-file to the commands to be executed\n" ++
  "  --follow-symlinks\n                 follow symlinks when processing in place\n" ++
  "  -i[SUFFIX], --in-place[=SUFFIX]\n" ++
  "                 edit files in place (makes backup if SUFFIX supplied)\n" ++
  "  -l N, --line-length=N\n" ++
  "                 specify the desired line-wrap length for the \x60l' command\n" ++
  "  --posix\n                 disable all GNU extensions.\n" ++
  "  -E, -r, --regexp-extended\n" ++
  "                 use extended regular expressions in the script\n" ++
  "                 (for portability use POSIX -E).\n" ++
  "  -s, --separate\n                 consider files as separate rather than as a single,\n" ++
  "                 continuous long stream.\n" ++
  "      --sandbox\n                 operate in sandbox mode (disable e/r/w commands).\n" ++
  "  -u, --unbuffered\n" ++
  "                 load minimal amounts of data from the input files and flush\n" ++
  "                 the output buffers more often\n" ++
  "  -z, --null-data\n                 separate lines by NUL characters\n" ++
  "      --help     display this help and exit\n" ++
  "      --version  output version information and exit\n\n" ++
  "If no -e, --expression, -f, or --file option is given, then the first\n" ++
  "non-option argument is taken as the sed script to interpret.  All\n" ++
  "remaining arguments are names of input files; if no input files are\n" ++
  "specified, then the standard input is read.\n\n"

def partsOf : List Options.Given → Proc (Except Bytes (List Units))
  | [] => return .ok []
  | option :: rest => do
      let word := option.word.getD []
      let others ← partsOf rest
      match option.letter, others with
      | _, .error message => return .error message
      | 'e', .ok parts => return .ok (Units.ofBytes word :: parts)
      | 'f', .ok parts =>
          match ← Input.all word with
          | .error error =>
              return .error
                (Bytes.ofText "couldn't open file " ++ word ++ Bytes.ofText (": " ++ reason error))
          | .ok (text, _) => return .ok (Units.ofBytes text :: parts)
      | _, .ok parts => return .ok parts

def complainBreakage (call : Call) (breakage : Breakage) : Proc Unit :=
  complainText call
    ("-e expression #" ++ toString breakage.part ++ ", char " ++ toString breakage.place ++ ": " ++
      breakage.message)

def start (call : Call) (given : List Options.Given) (parts : List Units) (files : List Bytes) :
    Proc Nat := do
  let has (letter : Char) := Options.has letter given
  match read (has 'E' || has 'r') parts with
  | .error breakage =>
      complainBreakage call breakage
      return 1
  | .ok script =>
      match missingLabel? script with
      | some label =>
          complain call (Bytes.ofText "can't find label for jump to \x60" ++ label ++ [0x27])
          return 1
      | none =>
          let isSilenced := (parts.headD []).take 2 == ['#', 'n']
          let setting : Setting :=
            { script := script
              isQuiet := has 'n' || isSilenced
              isSeparate := has 's' || has 'i'
              ending := if has 'z' then 0 else 0x0A
              width :=
                ((Options.word? 'l' given).bind fun word => (shown word).toNat?).getD 70 }
          let writers ← openWriters (writtenFiles script)
          if has 'i' then editInPlace call setting writers (Options.word? 'i' given) files
          else editAll call setting writers (if files.isEmpty then [[0x2D]] else files)

def program : Program := fun call => do
  match Options.take table call.arguments with
  | .error message =>
      complain call message
      warn (Bytes.ofText usage)
      return 1
  | .ok (given, words) =>
      match ← partsOf given with
      | .error message =>
          complain call message
          return 1
      | .ok [] =>
          if Options.has 'e' given || Options.has 'f' given then start call given [] words
          else
            match words with
            | [] =>
                warn (Bytes.ofText usage)
                return 1
            | script :: files => start call given [Units.ofBytes script] files
      | .ok parts => start call given parts words

end CompilerDriver.Machine.Program.Edit
