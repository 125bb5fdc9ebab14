import CompilerDriver.Machine.Shell.Act
import CompilerDriver.Machine.Shell.Arithmetic
import CompilerDriver.Machine.Shell.Pattern

/-!
From the words of a script to the fields of a command. Unquoted expansions are split at the field
separators, and unquoted patterns stand for the names they cover, if there are any. What a
substituted script prints is asked of a function, so that this module does not depend on how scripts
run.
-/

namespace CompilerDriver.Machine.Shell

open Kernel (Proc)

abbrev Substitute := Option Form → Act Bytes

inductive Fragment where
  | solid (cells : List Cell)
  | quotedEmpty
  | loose (bytes : Bytes)
  | gap
  deriving Repr, Inhabited

namespace Expansion

open Act

def cells (quoted : Bool) (bytes : Bytes) : List Cell :=
  (Units.ofBytes bytes).map fun unit => { unit := unit, quoted := quoted }

def fragment (quoted : Bool) (bytes : Bytes) : Fragment :=
  if quoted then .solid (cells true bytes) else .loose bytes

def decimal (value : Nat) : Bytes :=
  Bytes.ofText (toString value)

def isNumber (name : Bytes) : Bool :=
  !name.isEmpty && name.all fun byte => 0x30 ≤ byte && byte ≤ 0x39

def shownLetters : List String :=
  ["p", "u", "b", "a", "C", "E", "V", "v", "x", "s", "n", "m", "i", "I", "f", "e"]

def value? (memory : Memory) (name : Bytes) : Option Bytes :=
  match name with
  | [0x23] => some (decimal memory.arguments.length)
  | [0x3F] => some (decimal memory.status)
  | [0x24] => some (decimal memory.own)
  | [0x2D] => some (Bytes.ofText (String.join (shownLetters.filter memory.has)))
  | [0x21] => memory.latest.map decimal
  | _ =>
      if isNumber name then
        match Arithmetic.inBase 10 (Units.ofBytes name) with
        | 0 => some memory.zero
        | index + 1 => memory.arguments[index]?
      else memory.value? name

def isList (name : Bytes) : Bool :=
  name == [0x40] || name == [0x2A]

def separators (memory : Memory) : Bytes :=
  (memory.value? (Bytes.ofText "IFS")).getD [0x20, 0x09, 0x0A]

def isBlankByte (byte : UInt8) : Bool :=
  byte == 0x20 || byte == 0x09 || byte == 0x0A

def joinedArguments (memory : Memory) : Bytes :=
  match separators memory with
  | separator :: _ => Path.joinWith separator memory.arguments
  | [] => memory.arguments.flatten

def listFragments (memory : Memory) (isSingle : Bool) (name : Bytes) (quoted : Bool) :
    List Fragment :=
  if isSingle || quoted && name == [0x2A] then
    [fragment quoted (joinedArguments memory)]
  else
    (memory.arguments.map (fragment quoted)).intersperse .gap

def flatten (fragments : List Fragment) : Bytes :=
  fragments.flatMap fun fragment =>
    match fragment with
    | .solid cells => Units.toBytes (Cell.units cells)
    | .loose bytes => bytes
    | .gap => [0x20]
    | .quotedEmpty => []

def patternCells (fragments : List Fragment) : List Cell :=
  fragments.flatMap fun fragment =>
    match fragment with
    | .solid cells => cells
    | .loose bytes => cells false bytes
    | .gap => cells false [0x20]
    | .quotedEmpty => []

def ledger (memory : Memory) : Arithmetic.Ledger :=
  { value? := fun name => (memory.value? (Units.toBytes name)).map Units.ofBytes
    isConstant := fun name => memory.isConstant (Units.toBytes name) }

/-- The value of an arithmetic expression, after its assignments. A quotient that does not fit ends
the shell. -/
def arithmetic (text : Units) : Act Bytes := do
  match Arithmetic.evaluate (ledger (← get)) text with
  | .error .overflow =>
      run (Proc.act fun number kernel =>
        ((), kernel.condemn number number Kernel.Signal.arithmetic))
      escape .failing
  | .error trouble => fail (trouble.message text)
  | .ok (value, assigned) =>
      assigned.forM fun entry =>
        assign (Units.toBytes entry.1) (Bytes.ofText (toString entry.2))
      return Bytes.ofText (toString value)

def homeName : Bytes := Bytes.ofText "HOME"

def homes : List (String × String) :=
  [("root", "/root"), ("daemon", "/usr/sbin"), ("bin", "/bin"), ("sys", "/dev"), ("sync", "/bin"),
   ("games", "/usr/games"), ("man", "/var/cache/man"), ("lp", "/var/spool/lpd"),
   ("mail", "/var/mail"), ("news", "/var/spool/news"), ("uucp", "/var/spool/uucp"),
   ("proxy", "/bin"), ("www-data", "/var/www"), ("backup", "/var/backups"), ("list", "/var/list"),
   ("irc", "/run/ircd"), ("_apt", "/nonexistent"), ("nobody", "/nonexistent")]

def home? (memory : Memory) (user : Units) : Option Bytes :=
  if user.isEmpty then memory.value? homeName
  else (homes.lookup (String.ofList user)).map Bytes.ofText

/-- Where a tilde stands for a home: at the start of a word, and in assignments also behind colons.
Besides, whether a word stays one text. -/
structure Manner where
  start : Bool := false
  colons : Bool := false
  isSingle : Bool := false

/-- The home that a tilde at the front of a text stands for, and the text behind it. A name has to
end in the text, or with the word. -/
def homeAt? (memory : Memory) (manner : Manner) (isLast : Bool) (text : Units) :
    Option (Bytes × Units) :=
  match text with
  | '~' :: rest =>
      let (user, behind) := rest.span fun unit => unit != '/' && !(manner.colons && unit == ':')
      if behind.isEmpty && !isLast then none
      else (home? memory user).map fun home => (home, behind)
  | _ => none

def unquoted (units : Units) : List Fragment :=
  if units.isEmpty then [] else [.solid (cells false (Units.toBytes units))]

def textFragments (memory : Memory) (manner : Manner) (isLast : Bool) :
    (steps : Nat) → (atStart : Bool) → Units → List Fragment
  | 0, _, text => unquoted text
  | steps + 1, atStart, text =>
      match if atStart then homeAt? memory manner isLast text else none with
      | some (home, behind) =>
          (if home.isEmpty then [] else [.solid (cells true home)]) ++
            textFragments memory manner isLast steps false behind
      | none =>
          if manner.colons then
            let (front, behind) := text.span (· != ':')
            match behind with
            | colon :: rest =>
                unquoted (front ++ [colon]) ++
                  textFragments memory manner isLast steps true rest
            | [] => unquoted front
          else unquoted text

def isMissing (colon : Bool) (value : Option Bytes) : Bool :=
  match value with
  | none => true
  | some bytes => colon && bytes.isEmpty

/-- The value for the treatments that use it; a list gives its arguments joined. -/
def listValue? (memory : Memory) (name : Bytes) : Option Bytes :=
  if isList name then some (joinedArguments memory) else value? memory name

def loosen (quoted : Bool) (fragment : Fragment) : Fragment :=
  match fragment with
  | .solid cells =>
      if quoted || cells.any Cell.quoted then fragment
      else .loose (Units.toBytes (Cell.units cells))
  | _ => fragment

def plainFragments (memory : Memory) (isSingle : Bool) (name : Bytes) (quoted : Bool) :
    List Fragment :=
  if isList name then listFragments memory isSingle name quoted
  else [fragment quoted ((value? memory name).getD [])]

def demandValue (memory : Memory) (name : Bytes) : Act Unit := do
  if memory.has "u" && !isList name && (value? memory name).isNone then
    fail (name ++ Bytes.ofText ": parameter not set")

def missing (name : Bytes) (colon : Bool) (message : Option Bytes) : Bytes :=
  name ++ Bytes.ofText ": " ++
    message.getD (Bytes.ofText (if colon then "parameter not set or null" else "parameter not set"))

def assignParameter (name value : Bytes) : Act Unit := do
  if isName name then assign name value
  else fail (name ++ Bytes.ofText ": bad variable name")

def trimmed (treatment : Treatment) (pattern : Pattern) (value : Bytes) : Bytes :=
  match treatment with
  | .trimStart longest => Units.toBytes (pattern.trimStart longest (Units.ofBytes value))
  | .trimEnd longest => Units.toBytes (pattern.trimEnd longest (Units.ofBytes value))
  | _ => value

/-- Takes a covered part off arguments that stand one behind the other. A pattern covers parts of
one argument only; where it covers the whole first argument, or the end of one, all that stands
behind the part goes with it if the part is looked for from that side. -/
def trimmedList (treatment : Treatment) (pattern : Pattern) (arguments : List Bytes) :
    List Bytes :=
  let take := trimmed treatment pattern
  let endsCovered := fun (argument : Bytes) =>
    (Pattern.ends (Units.ofBytes argument)).any pattern.covers
  match treatment, arguments with
  | .trimStart longest, first :: rest =>
      if longest && pattern.covers (Units.ofBytes first) then [[]] else take first :: rest
  | .trimEnd true, first :: _ => if endsCovered first then [take first] else arguments
  | .trimEnd false, _ =>
      match arguments.reverse.dropWhile fun argument => !endsCovered argument with
      | last :: front => (take last :: front).reverse
      | [] => arguments
  | _, _ => arguments

def keepsApart (memory : Memory) (isSingle : Bool) (name : Bytes) (quoted : Bool) : Bool :=
  isList name && !isSingle &&
    if quoted then name == [0x40] else (memory.value? (Bytes.ofText "IFS")).isSome

mutual

def part (substitute : Substitute) (manner : Manner) : Part → Act (List Fragment)
  | .literal bytes quoted => do
      if quoted then return if bytes.isEmpty then [.quotedEmpty] else [.solid (cells true bytes)]
      else
        let units := Units.ofBytes bytes
        return textFragments (← get) manner false (units.length + 1) false units
  | .malformed => failText "Bad substitution"
  | .substitution script quoted => do
      let printed ← substitute script
      return [fragment quoted (((printed.filter (· != 0)).reverse.dropWhile (· == 0x0A)).reverse)]
  | .arithmetic inside quoted => do
      let fragments ← parts substitute { isSingle := true } false inside
      return [fragment quoted (← arithmetic (Units.ofBytes (flatten fragments)))]
  | .parameter name treatment word quoted => do
      let memory ← get
      let value := listValue? memory name
      let inner : Manner :=
        if quoted then { isSingle := manner.isSingle } else { manner with start := true }
      let single : Manner := { inner with isSingle := true }
      match treatment with
      | .plain =>
          demandValue memory name
          return plainFragments memory manner.isSingle name quoted
      | .length =>
          demandValue memory name
          return [fragment quoted (decimal (value.getD []).length)]
      | .orElse colon =>
          if isMissing colon value then
            return (← parts substitute inner true word).map (loosen quoted)
          else return plainFragments memory manner.isSingle name quoted
      | .assign colon =>
          if isMissing colon value then
            assignParameter name (flatten (← parts substitute single true word))
          return plainFragments (← get) manner.isSingle name quoted
      | .demand colon =>
          if isMissing colon value then
            if word.isEmpty then fail (missing name colon none)
            else
              let fragments ← parts substitute single true word
              fail (missing name colon (some (flatten fragments)))
          else return plainFragments memory manner.isSingle name quoted
      | .instead colon =>
          if isMissing colon value then return []
          else return (← parts substitute inner true word).map (loosen quoted)
      | .trimStart _ | .trimEnd _ =>
          demandValue memory name
          let fragments ← parts substitute { single with start := true } true word
          let pattern := Pattern.ofCells (patternCells fragments)
          if keepsApart memory manner.isSingle name quoted then
            return ((trimmedList treatment pattern memory.arguments).map
              (fragment quoted)).intersperse .gap
          else return [fragment quoted (trimmed treatment pattern (value.getD []))]

def parts (substitute : Substitute) (manner : Manner) :
    (atStart : Bool) → List Part → Act (List Fragment)
  | _, [] => return []
  | atStart, .literal bytes false :: rest => do
      let units := Units.ofBytes bytes
      let isHere := manner.start && atStart
      let front :=
        textFragments (← get) manner rest.isEmpty (units.length + 1) isHere units
      return front ++ (← parts substitute manner false rest)
  | _, first :: rest => do
      let front ← part substitute manner first
      return front ++ (← parts substitute manner false rest)

end

/-- Fields under construction. A field is open once something has been put into it. A separator that
follows blanks behind a field belongs to the end of that field. -/
structure Fields where
  closed : List (List Cell) := []
  current : List Cell := []
  isOpen : Bool := false
  quotedEmpty : Bool := false
  behindBlank : Bool := false

namespace Fields

def close (fields : Fields) : Fields :=
  if fields.isOpen || fields.quotedEmpty then
    { fields with
      closed := fields.closed ++ [fields.current], current := [], isOpen := false,
      quotedEmpty := false }
  else fields

def add (fields : Fields) (more : List Cell) : Fields :=
  { fields with current := fields.current ++ more, isOpen := true, behindBlank := false }

def closeAtBlank (fields : Fields) : Fields :=
  { fields.close with
    behindBlank := fields.behindBlank || fields.isOpen || fields.quotedEmpty }

def closeAtSeparator (fields : Fields) : Fields :=
  if fields.behindBlank && !fields.isOpen && !fields.quotedEmpty then
    { fields with behindBlank := false }
  else { Fields.close { fields with isOpen := true } with behindBlank := false }

def split (separators : Bytes) : Fields → Bytes → Fields
  | fields, [] => fields
  | fields, byte :: rest =>
      if separators.contains byte then
        split separators
          (if isBlankByte byte then fields.closeAtBlank else fields.closeAtSeparator) rest
      else split separators (fields.add (cells false [byte])) rest

def take (separators : Bytes) (fields : Fields) : Fragment → Fields
  | .solid more => fields.add more
  | .quotedEmpty => { fields with quotedEmpty := true }
  | .loose bytes => split separators fields bytes
  | .gap => Fields.close { fields with quotedEmpty := fields.quotedEmpty || fields.isOpen }

def finish (fields : Fields) : List (List Cell) :=
  fields.close.closed

end Fields

def isSlash (cell : Cell) : Bool :=
  cell.unit == '/'

def segments : List Cell → List (List Cell)
  | [] => [[]]
  | cell :: rest =>
      if isSlash cell then [] :: segments rest
      else
        match segments rest with
        | [] => [[cell]]
        | first :: others => (cell :: first) :: others

/-- The names below a path that a segment covers, with those of the directory itself and of the one
above. Names that start with a dot must be asked for. -/
def covered (tree : FileTree) (path : Bytes) (segment : List Cell) : List Bytes :=
  let pattern := Pattern.ofCells segment
  let below := if path.isEmpty then Path.mk Path.here else Path.mk path
  match tree.look below with
  | .ok (place, .directory) =>
      (Path.here :: Path.up :: tree.children place).filter fun name =>
        (name.head? != some Path.dot || (segment.head?.map Cell.unit) == some '.') &&
          pattern.covers (Units.ofBytes name)
  | _ => []

def extend (tree : FileTree) (paths : List Bytes) (segment : List Cell) : List Bytes :=
  if Pattern.isPlain (Pattern.ofCells segment) then
    paths.map fun path => path ++ Units.toBytes (Cell.units segment)
  else
    paths.flatMap fun path => (covered tree path segment).map fun name => path ++ name

def paths (tree : FileTree) : List Bytes → List (List Cell) → List Bytes
  | found, [] => found
  | found, [last] => extend tree found last
  | found, segment :: rest =>
      paths tree ((extend tree found segment).map fun path => path ++ [Path.slash]) rest

/-- A field that is a pattern gives the paths it covers; with none it stands for itself. -/
def covers (tree : FileTree) (field : List Cell) : List Bytes :=
  let plain := Units.toBytes (Cell.units field)
  if Pattern.isPlain (Pattern.ofCells field) then [plain]
  else
    let found := (paths tree [[]] (segments field)).filter fun path =>
      (tree.look ⟨path⟩).isOk
    if found.isEmpty then [plain] else found.mergeSort FileTree.bytesLe

def named (found : List (List Cell)) : Act (List Bytes) := do
  let isPlain := found.all fun field => (Pattern.ofCells field).isPlain
  if isPlain || (← get).has "f" then return found.map fun field => Units.toBytes (Cell.units field)
  else
    let tree ← run (Proc.ask fun number kernel => kernel.treeOf number)
    return found.flatMap (covers tree)

def fields (substitute : Substitute) (word : Word) : Act (List Bytes) := do
  let fragments ← parts substitute { start := true } true word
  let memory ← get
  named (fragments.foldl (Fields.take (separators memory)) {}).finish

def whole (substitute : Substitute) (word : Word) : Act Bytes := do
  return flatten (← parts substitute { start := true, isSingle := true } true word)

def assigned (substitute : Substitute) (word : Word) : Act Bytes := do
  return flatten (← parts substitute { start := true, colons := true, isSingle := true } true word)

def document (substitute : Substitute) (body : Word) : Act Bytes := do
  return flatten (← parts substitute { isSingle := true } false body)

def pattern (substitute : Substitute) (word : Word) : Act Pattern := do
  return Pattern.ofCells
    (patternCells (← parts substitute { start := true, isSingle := true } true word))

end CompilerDriver.Machine.Shell.Expansion
