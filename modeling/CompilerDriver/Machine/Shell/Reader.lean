import CompilerDriver.Machine.Shell.Source

/-!
From the text of a script to its forms. A script is read one complete command line at a time, so
that what runs before can set aliases for what is read later, and the lines before one that breaks
off can still be run. Each reader takes a bound on its steps, which the length of the text always
satisfies.
-/

namespace CompilerDriver.Machine.Shell.Reader

open Read

def metaUnits : List Char :=
  [' ', '\t', '\n', ';', '&', '|', '<', '>', '(', ')']

def isMeta (unit : Char) : Bool :=
  metaUnits.contains unit

def isBlankUnit (unit : Char) : Bool :=
  unit == ' ' || unit == '\t'

def isSpecialName (unit : Char) : Bool :=
  ['@', '*', '#', '?', '-', '$', '!'].contains unit || unit.isDigit

def isPlainIn (stops : List Char) (unit : Char) : Bool :=
  !stops.contains unit

def reserved : List String :=
  ["if", "then", "else", "elif", "fi", "do", "done", "case", "esac", "while", "until", "for",
   "\x7b", "\x7d", "!", "in"]

def closers : List String :=
  ["then", "else", "elif", "fi", "do", "done", "esac", "\x7d"]

/-- The commands whose failures end the shell, and whose assignments stay. Functions cannot have
their names. -/
def specialNames : List String :=
  [":", ".", "break", "continue", "eval", "exec", "exit", "export", "local", "readonly", "return",
   "set", "shift", "times", "trap", "unset"]

def endsList : Token → Bool
  | .keyword text => closers.contains text
  | .operator text => text == ")" || text == ";;"
  | .textEnd => true
  | _ => false

def nameOf : Token → String
  | .word _ => "word"
  | .keyword text | .operator text => "\"" ++ text ++ "\""
  | .file .. | .channel _ | .document .. => "redirection"
  | .lineEnd => "newline"
  | .textEnd => "end of file"

def unexpected {α : Type} (found : Token) : Read α :=
  fail (nameOf found ++ " unexpected")

def unexpectedFor {α : Type} (found : Token) (expected : String) : Read α :=
  fail (nameOf found ++ " unexpected (expecting \"" ++ expected ++ "\")")

def single : Read Units := do
  let inside ← span (· != '\'')
  match ← take with
  | some _ => return inside
  | none => fail "Unterminated quoted string"

/-- In what the units around an expansion stand. A document ends where its delimiter stands alone on
a line. -/
inductive Mode where
  | plain
  | quoted
  | document (awaited : Awaited)

def Mode.isQuoted : Mode → Bool
  | .plain => false
  | _ => true

def isEscapable (more : List Char) (unit : Char) : Bool :=
  (['\\', '\x60', '$'] ++ more).contains unit

/-- What a backslash with a unit behind it stands for where only some can be escaped. -/
def escaped (more : List Char) (unit : Char) : Units :=
  if isEscapable more unit then [unit] else ['\\', unit]

/-- The script between backquotes. Inside, a backslash escapes itself, a dollar, a backquote, and in
quotes also a double quote. -/
def backquoted (isQuoted : Bool) : (steps : Nat) → Read Units
  | 0 => fail "EOF in backquote substitution"
  | steps + 1 => do
      match ← peekJoined with
      | none => fail "EOF in backquote substitution"
      | some '\x60' =>
          skip 1
          return []
      | some '\\' =>
          skip 1
          match ← take with
          | none => fail "EOF in backquote substitution"
          | some unit =>
              let kept := escaped (if isQuoted then ['"'] else []) unit
              return kept ++ (← backquoted isQuoted steps)
      | some unit =>
          skip 1
          return unit :: (← backquoted isQuoted steps)

def symbolTreatment? (colon : Bool) : Char → Option Treatment
  | '-' => some (.orElse colon)
  | '=' => some (.assign colon)
  | '?' => some (.demand colon)
  | '+' => some (.instead colon)
  | _ => none

/-- What an opened brace leads to: a whole expansion, one with a word behind it, or none that can be
understood, which is still read to its end. -/
inductive Opened where
  | whole (name : Units) (treatment : Treatment)
  | open (name : Units) (treatment : Treatment)
  | bad

def treatment (name : Units) : Read Opened := do
  match ← peekJoined with
  | some '\x7d' =>
      skip 1
      return .whole name .plain
  | some ':' =>
      skip 1
      match ← peekJoined with
      | some unit =>
          skip 1
          return ((symbolTreatment? true unit).map (Opened.open name)).getD .bad
      | none => return .bad
  | some unit =>
      skip 1
      if unit == '%' || unit == '#' then
        let make := if unit == '%' then Treatment.trimEnd else Treatment.trimStart
        if (← peekJoined) == some unit then
          skip 1
          return .open name (make true)
        else return .open name (make false)
      else return ((symbolTreatment? false unit).map (Opened.open name)).getD .bad
  | none => return .bad

def nameLimit : Nat := 1000000

def measured (isWanted : Char → Bool) : Read Opened := do
  let name ← spanJoined isWanted nameLimit
  if (← peekJoined) == some '\x7d' then
    skip 1
    return .whole name .length
  else return .bad

/-- Behind an opening brace and the sign for a length, which may also be the name itself. -/
def numberSign : Read Opened := do
  match ← peekJoined with
  | none => return .bad
  | some unit =>
      if isNameStart unit then measured isNameUnit
      else if unit.isDigit then measured Char.isDigit
      else
        let start ← get
        skip 1
        if unit != '\x7d' && (← peekJoined) == some '\x7d' then
          if isSpecialName unit then
            skip 1
            return .whole [unit] .length
          else return .bad
        else
          set start
          treatment ['#']

def opened : Read Opened := do
  match ← peekJoined with
  | none => return .bad
  | some unit =>
      if isNameStart unit then treatment (← spanJoined isNameUnit nameLimit)
      else if unit.isDigit then treatment (← spanJoined Char.isDigit nameLimit)
      else if unit == '\x7d' then return .bad
      else
        skip 1
        if unit == '#' then numberSign
        else if isSpecialName unit then treatment [unit]
        else
          if unit == '\n' then modify fun source => { source with line := source.line - 1 }
          return .bad

/-- Whether the delimiter of a document stands alone on the next line, and how long that line is. -/
def closing? (awaited : Awaited) (text : Units) : Option Nat :=
  let shown := if awaited.stripsTabs then text.dropWhile (· == '\t') else text
  let behind := shown.drop awaited.delimiter.length
  if awaited.delimiter.isPrefixOf shown && (behind.head?.all (· == '\n')) then
    some (text.length - shown.length + awaited.delimiter.length + 1)
  else none

def closes (awaited : Awaited) : Read Bool := do
  match closing? awaited (← get).text with
  | some count =>
      skip count
      return true
  | none =>
      if awaited.stripsTabs then
        let _ ← span (· == '\t')
      return false

def knownBody (number : Nat) : Read Word := do
  return ((← get).known.lookup number).getD []

/-! ### Forms -/

structure Check where
  lines : Bool := false
  keywords : Bool := false
  aliases : Bool := false
  /-- The word is the delimiter of a document, in which nothing is expanded. -/
  mark : Bool := false

def anyCommand : Check := { lines := true, keywords := true, aliases := true }

/-- The words, assignments and redirections of a simple command. -/
structure Parts where
  assignments : List (Bytes × Word) := []
  words : List Word := []
  redirects : List Redirect := []

def joined (before : Option Form) (form : Form) : Form :=
  match before with
  | some first => .sequence first form
  | none => form

def pipelineOf : List Form → Form
  | [only] => only
  | stages => .pipeline stages

def withRedirects (line : Nat) (form : Form) (redirects : List Redirect) : Form :=
  if redirects.isEmpty then form
  else
    match form with
    | .subshell place body before => .subshell place body (before ++ redirects)
    | _ => .redirected line form redirects

def nothing : Form := .sequence (.simple 0 [] [] []) (.simple 0 [] [] [])

def push (token : Token) : Read Unit :=
  modify fun source => { source with pushed := some token }

def lineNow : Read Nat := do
  return (← get).line

def functionName? (word : Word) : Option Bytes :=
  word.bare?.filter fun name => isName name && !specialNames.contains (Text.Utf8.lossy name)

mutual

-- Words.

def word : (steps : Nat) → (mark : Bool) → Read Word
  | 0, _ => return []
  | steps + 1, mark => do
      match ← peekJoined with
      | none => return []
      | some unit =>
          if isMeta unit then return []
          else if unit == '\\' then
            skip 1
            let kept := (← take).getD '\\'
            return Word.cons (Word.literal [kept] true) (← word steps mark)
          else if unit == '\'' then
            skip 1
            let inside ← single
            return Word.cons (Word.literal inside true) (← word steps mark)
          else if unit == '"' then
            skip 1
            let inside ← double steps false
            return Word.enclosed inside ++ (← word steps mark)
          else if unit == '$' && !mark then
            skip 1
            let part ← dollar steps .plain
            return Word.cons part (← word steps mark)
          else if unit == '\x60' && !mark then
            skip 1
            let part ← backquote steps .plain
            return Word.cons part (← word steps mark)
          else if unit == '\x60' then
            skip 1
            return Word.cons (Word.literal [unit] true) (← word steps mark)
          else
            skip 1
            let plain ← span (isPlainIn (metaUnits ++ ['"', '\\', '$', '\x60', '\'']))
            return Word.cons (Word.literal (unit :: plain) false) (← word steps mark)

/-- Up to a closing double quote. Inside braces a brace can be escaped as well. -/
def double : (steps : Nat) → (inBraces : Bool) → Read Word
  | 0, _ => fail "Unterminated quoted string"
  | steps + 1, inBraces => do
      match ← peekJoined with
      | none => fail "Unterminated quoted string"
      | some '"' =>
          skip 1
          return []
      | some '\\' =>
          skip 1
          match ← take with
          | none => fail "Unterminated quoted string"
          | some unit =>
              let kept := escaped (if inBraces then ['"', '\x7d'] else ['"']) unit
              return Word.cons (Word.literal kept true) (← double steps inBraces)
      | some '$' =>
          skip 1
          let part ← dollar steps .quoted
          return Word.cons part (← double steps inBraces)
      | some '\x60' =>
          skip 1
          let part ← backquote steps .quoted
          return Word.cons part (← double steps inBraces)
      | some unit =>
          skip 1
          let plain ← span (isPlainIn ['"', '\\', '$', '\x60'])
          return Word.cons (Word.literal (unit :: plain) true) (← double steps inBraces)

def braced : (steps : Nat) → Mode → Read Word
  | 0, _ => fail "Missing '\x7d'"
  | steps + 1, mode => do
      match ← peekJoined with
      | none =>
          match mode with
          | .quoted => fail "Unterminated quoted string"
          | _ => fail "Missing '\x7d'"
      | some '\x7d' =>
          skip 1
          return []
      | some '\\' =>
          skip 1
          let unit := (← take).getD '\\'
          let kept := if mode.isQuoted then escaped ['"', '\x7d'] unit else [unit]
          return Word.cons (Word.literal kept true) (← braced steps mode)
      | some '"' =>
          skip 1
          let inside ← double steps true
          return Word.enclosed inside ++ (← braced steps mode)
      | some '$' =>
          skip 1
          let part ← dollar steps mode
          return Word.cons part (← braced steps mode)
      | some '\x60' =>
          skip 1
          let part ← backquote steps mode
          return Word.cons part (← braced steps mode)
      | some '\n' =>
          skip 1
          match mode with
          | .document awaited => if ← closes awaited then fail "Missing '\x7d'"
          | _ => pure ()
          return Word.cons (Word.literal ['\n'] mode.isQuoted) (← braced steps mode)
      | some unit =>
          skip 1
          if unit == '\'' && !mode.isQuoted then
            let inside ← single
            return Word.cons (Word.literal inside true) (← braced steps mode)
          else
            let plain ← span (isPlainIn ['\x7d', '"', '\\', '$', '\x60', '\'', '\n'])
            return Word.cons (Word.literal (unit :: plain) mode.isQuoted) (← braced steps mode)

def calculation : (steps depth : Nat) → Read Word
  | 0, _ => fail "Missing '))'"
  | steps + 1, depth => do
      match ← peekJoined with
      | none => fail "Missing '))'"
      | some '(' =>
          skip 1
          return Word.cons (Word.literal ['('] true) (← calculation steps (depth + 1))
      | some ')' =>
          skip 1
          if 0 < depth then
            return Word.cons (Word.literal [')'] true) (← calculation steps (depth - 1))
          else if (← peekJoined) == some ')' then
            skip 1
            return []
          else return Word.cons (Word.literal [')'] true) (← calculation steps 0)
      | some '\\' =>
          skip 1
          match ← take with
          | none => fail "Missing '))'"
          | some unit =>
              return Word.cons (Word.literal (escaped ['"'] unit) true) (← calculation steps depth)
      | some '$' =>
          skip 1
          let part ← dollar steps .quoted
          return Word.cons part (← calculation steps depth)
      | some '\x60' =>
          skip 1
          let part ← backquote steps .quoted
          return Word.cons part (← calculation steps depth)
      | some unit =>
          skip 1
          let plain ← span (isPlainIn ['(', ')', '\\', '$', '\x60'])
          return Word.cons (Word.literal (unit :: plain) true) (← calculation steps depth)

/-- An expansion, behind its dollar sign. A dollar that starts none stands for itself. -/
def dollar : (steps : Nat) → Mode → Read Part
  | 0, mode => return Word.literal ['$'] mode.isQuoted
  | steps + 1, mode => do
      match ← peekJoined with
      | none => return Word.literal ['$'] mode.isQuoted
      | some '(' =>
          skip 1
          if (← peekJoined) == some '(' then
            skip 1
            return .arithmetic (← calculation steps 0) mode.isQuoted
          else return .substitution (← substituted steps) mode.isQuoted
      | some '\x7b' =>
          skip 1
          match ← opened with
          | .whole name treatment =>
              return .parameter (Units.toBytes name) treatment [] mode.isQuoted
          | .open name treatment =>
              let inside ← braced steps (if treatment.isTrim then .plain else mode)
              return .parameter (Units.toBytes name) treatment inside mode.isQuoted
          | .bad =>
              let _ ← braced steps mode
              return .malformed
      | some unit =>
          if isNameStart unit then
            let name ← spanJoined isNameUnit nameLimit
            return .parameter (Units.toBytes name) .plain [] mode.isQuoted
          else if isSpecialName unit then
            skip 1
            return .parameter (Units.toBytes [unit]) .plain [] mode.isQuoted
          else return Word.literal ['$'] mode.isQuoted

/-- A script in parentheses, behind the opening one. Its here-documents are its own. -/
def substituted : (steps : Nat) → Read (Option Form)
  | 0 => fail "end of file unexpected (expecting \")\")"
  | steps + 1 => do
      let outer := (← get).awaited
      modify fun source => { source with awaited := [] }
      let form ← list steps false true none
      match ← readToken steps {} with
      | .operator ")" =>
          readAwaited steps
          modify fun source => { source with awaited := outer }
          return form
      | found => unexpectedFor found ")"

/-- A script in backquotes, behind the opening one. It is read as a text of its own. -/
def backquote : (steps : Nat) → Mode → Read Part
  | 0, _ => fail "EOF in backquote substitution"
  | steps + 1, mode => do
      let script ← backquoted mode.isQuoted (steps + 1)
      let outer ← get
      set { outer with text := script, line := 1, inserted := [], awaited := [] }
      let form ← list steps false true none
      readAwaited steps
      modify fun inner =>
        { outer with documents := inner.documents, number := inner.number }
      return .substitution form mode.isQuoted

-- Here-documents.

/-- The body of a here-document. Unless its delimiter was quoted it holds expansions, but no
quotes. -/
def document : (steps : Nat) → Awaited → (atStart : Bool) → Read Word
  | 0, _, _ => return []
  | steps + 1, awaited, atStart => do
      unless awaited.quoted do skipJoins
      if atStart then
        if ← closes awaited then return []
      match ← (if awaited.quoted then peek else peekJoined) with
      | none => return []
      | some '\n' =>
          skip 1
          return Word.cons (Word.literal ['\n'] true) (← document steps awaited true)
      | some unit =>
          skip 1
          if awaited.quoted then
            let plain ← span (· != '\n')
            return Word.cons (Word.literal (unit :: plain) true) (← document steps awaited false)
          else if unit == '\\' then
            let kept :=
              match ← take with
              | some unit => escaped [] unit
              | none => ['\\']
            return Word.cons (Word.literal kept true) (← document steps awaited false)
          else if unit == '$' then
            let part ← dollar steps (.document awaited)
            return Word.cons part (← document steps awaited false)
          else if unit == '\x60' then
            let part ← backquote steps (.document awaited)
            return Word.cons part (← document steps awaited false)
          else
            let plain ← span (isPlainIn ['\n', '\\', '$', '\x60'])
            return Word.cons (Word.literal (unit :: plain) true) (← document steps awaited false)

def readAwaited : (steps : Nat) → Read Unit
  | 0 => return ()
  | steps + 1 => do
      match (← get).awaited with
      | [] => return ()
      | first :: rest =>
          modify fun source => { source with awaited := rest }
          let body ← document steps first true
          modify fun source => { source with documents := (first.number, body) :: source.documents }
          readAwaited steps

-- Tokens.

def token : (steps : Nat) → (mark : Bool) → Read Token
  | 0, _ => return .textEnd
  | steps + 1, mark => do
      match ← peekJoined with
      | none => return .textEnd
      | some unit =>
          if isBlankUnit unit then
            skip 1
            token steps mark
          else if unit == '#' then
            let _ ← span (· != '\n')
            token steps mark
          else if unit == '\n' then
            skip 1
            return .lineEnd
          else if unit == '(' || unit == ')' then
            skip 1
            return .operator (String.singleton unit)
          else if unit == '&' || unit == '|' || unit == ';' then
            skip 1
            if (← peekJoined) == some unit then
              skip 1
              return .operator (String.ofList [unit, unit])
            else return .operator (String.singleton unit)
          else if unit == '<' || unit == '>' then redirection unit none
          else
            let (_, behind) := unjoined ((← get).text.drop 1)
            match behind with
            | angle :: _ =>
                if unit.isDigit && (angle == '<' || angle == '>') then
                  skip 1
                  let _ ← peekJoined
                  redirection angle (some (unit.toNat - '0'.toNat))
                else return .word (← word steps mark)
            | [] => return .word (← word steps mark)

def readToken : (steps : Nat) → Check → Read Token
  | 0, _ => return .textEnd
  | steps + 1, check => do
      let before ← position
      let found ←
        match (← get).pushed with
        | some pushed =>
            modify fun source => { source with pushed := none }
            pure pushed
        | none => token steps check.mark
      match found with
      | .lineEnd =>
          if check.lines then
            readAwaited steps
            readToken steps check
          else return .lineEnd
      | .word parts =>
          if before != 0 then noteCrossing before
          let aliases := check.aliases || (← get).recheck
          modify fun source => { source with recheck := false }
          match parts.bare? with
          | none => return found
          | some name =>
              let text := Text.Utf8.lossy name
              if check.keywords && reserved.contains text then return .keyword text
              else if aliases then
                match ← alias? name with
                | some value =>
                    insert name value
                    readToken steps { check with aliases := true }
                | none => return found
              else return found
      | _ => return found

def redirection (angle : Char) (given : Option Nat) : Read Token := do
  skip 1
  let channel := given.getD (if angle == '<' then 0 else 1)
  let found ← peekJoined
  let known := if angle == '<' then ['<', '&', '>'] else ['>', '|', '&']
  match found.filter known.contains with
  | none => return .file channel (if angle == '<' then .input else .output) false
  | some unit =>
      skip 1
      if unit == '&' then return .channel channel
      else if unit == '|' then return .file channel .output true
      else if angle == '>' then return .file channel .append false
      else if unit == '>' then return .file channel .update false
      else if (← peekJoined) == some '-' then
        skip 1
        return .document channel true
      else return .document channel false

-- Redirections.

def redirect? : (steps : Nat) → Token → Read (Option Redirect)
  | 0, _ => return none
  | steps + 1, found => do
      let target (mark : Bool) : Read Word := do
        match ← readToken steps { mark := mark } with
        | .word parts => return parts
        | other => unexpected other
      match found with
      | .file channel opening forced =>
          return some (.file channel opening forced (← target false))
      | .channel channel => return some (.channel channel (← target false))
      | .document channel stripsTabs =>
          let parts ← target true
          let number := (← get).number
          let awaited : Awaited :=
            { number := number
              delimiter := Word.plainText parts
              quoted := Word.isQuoted parts
              stripsTabs := stripsTabs }
          modify fun source =>
            { source with number := number + 1, awaited := source.awaited ++ [awaited] }
          return some (.text channel (← knownBody number))
      | _ => return none

def redirects : (steps : Nat) → Check → Read (List Redirect)
  | 0, _ => return []
  | steps + 1, check => do
      let found ← readToken steps check
      match ← redirect? steps found with
      | some first => return first :: (← redirects steps {})
      | none =>
          push found
          return []

-- Lists.

/-- And-or lists up to a token that ends them, or at the top up to the end of the line. Only where
it may be empty does such a token end a list at once. -/
def list : (steps : Nat) → (top mayEnd : Bool) → Option Form → Read (Option Form)
  | 0, _, _, before => return before
  | steps + 1, top, mayEnd, before => do
      match ← readToken steps { anyCommand with lines := !top } with
      | .lineEnd =>
          readAwaited steps
          return before
      | .textEnd =>
          readAwaited steps
          push .textEnd
          return before
      | found =>
          push found
          if !top && mayEnd && endsList found then return before
          else
            let form ← andOr steps
            let line ← lineNow
            let behind ← readToken steps {}
            match behind with
            | .operator "&" => list steps top true (some (joined before (.background line form)))
            | .operator ";" => list steps top true (some (joined before form))
            | .lineEnd =>
                push behind
                list steps top true (some (joined before form))
            | .textEnd =>
                readAwaited steps
                push behind
                return some (joined before form)
            | _ =>
                if top then unexpected behind
                else
                  push behind
                  return some (joined before form)

/-- A list that must not be empty. Only the end of the text leaves it without a command. -/
def body : (steps : Nat) → Read Form
  | 0 => return nothing
  | steps + 1 => do
      return (← list steps false false none).getD nothing

def andOr : (steps : Nat) → Read Form
  | 0 => return nothing
  | steps + 1 => do
      let first ← pipeline steps {}
      andOrFrom steps first

def andOrFrom : (steps : Nat) → Form → Read Form
  | 0, form => return form
  | steps + 1, form => do
      match ← readToken steps {} with
      | .operator "&&" =>
          let next ← pipeline steps anyCommand
          andOrFrom steps (.both form next)
      | .operator "||" =>
          let next ← pipeline steps anyCommand
          andOrFrom steps (.either form next)
      | found =>
          push found
          return form

def pipeline : (steps : Nat) → Check → Read Form
  | 0, _ => return nothing
  | steps + 1, check => do
      match ← readToken steps check with
      | .keyword "!" =>
          let forms ← stages steps { keywords := true, aliases := true }
          return .negated (pipelineOf forms)
      | found =>
          push found
          let forms ← stages steps {}
          return pipelineOf forms

def stages : (steps : Nat) → Check → Read (List Form)
  | 0, _ => return []
  | steps + 1, check => do
      let first ← command steps check
      match ← readToken steps {} with
      | .operator "|" => return first :: (← stages steps anyCommand)
      | found =>
          push found
          return [first]

-- Commands.

def command : (steps : Nat) → Check → Read Form
  | 0, _ => return nothing
  | steps + 1, check => do
      let line ← lineNow
      let found ← readToken steps check
      match ← compound? steps line found with
      | some form =>
          let behind ← redirects steps { keywords := true, aliases := true }
          return withRedirects line form behind
      | none =>
          match found with
          | .word _ | .file .. | .channel _ | .document .. =>
              push found
              simple steps (← lineNow) true {}
          | _ => unexpected found

def expect : (steps : Nat) → Check → (keyword : String) → Read Unit
  | 0, _, _ => return ()
  | steps + 1, check, keyword => do
      match ← readToken steps check with
      | .keyword text =>
          if text == keyword then return () else unexpectedFor (.keyword text) keyword
      | found => unexpectedFor found keyword

def compound? : (steps line : Nat) → Token → Read (Option Form)
  | 0, _, _ => return none
  | steps + 1, line, found => do
      match found with
      | .operator "(" =>
          let form ← body steps
          match ← readToken steps {} with
          | .operator ")" => return some (.subshell line form [])
          | other => unexpectedFor other ")"
      | .keyword "\x7b" =>
          let form ← body steps
          expect steps {} "\x7d"
          return some form
      | .keyword "if" => return some (← branch steps)
      | .keyword "while" => return some (← loopOf steps false)
      | .keyword "until" => return some (← loopOf steps true)
      | .keyword "for" => return some (← eachOf steps line)
      | .keyword "case" =>
          match ← readToken steps {} with
          | .word parts =>
              expect steps anyCommand "in"
              return some (.choose line parts (← arms steps))
          | other => fail (nameOf other ++ " unexpected (expecting word)")
      | _ => return none

def branch : (steps : Nat) → Read Form
  | 0 => return nothing
  | steps + 1 => do
      let condition ← body steps
      expect steps {} "then"
      let chosen ← body steps
      match ← readToken steps {} with
      | .keyword "elif" => return .branch condition chosen (some (← branch steps))
      | .keyword "else" =>
          let other ← body steps
          expect steps {} "fi"
          return .branch condition chosen (some other)
      | .keyword "fi" => return .branch condition chosen none
      | found => unexpectedFor found "fi"

def loopOf : (steps : Nat) → (untilTrue : Bool) → Read Form
  | 0, _ => return nothing
  | steps + 1, untilTrue => do
      let condition ← body steps
      expect steps {} "do"
      let form ← body steps
      expect steps {} "done"
      return .loop untilTrue condition form

def wordList : (steps : Nat) → Read (List Word)
  | 0 => return []
  | steps + 1 => do
      match ← readToken steps {} with
      | .word parts => return parts :: (← wordList steps)
      | .lineEnd | .operator ";" => return []
      | found => unexpected found

def eachOf : (steps line : Nat) → Read Form
  | 0, _ => return nothing
  | steps + 1, line => do
      let name ←
        match ← readToken steps {} with
        | .word parts =>
            match parts.bare?.filter isName with
            | some name => pure name
            | none => fail "Bad for loop variable"
        | _ => fail "Bad for loop variable"
      let words ←
        match ← readToken steps anyCommand with
        | .keyword "in" => pure (some (← wordList steps))
        | .operator ";" => pure none
        | found => do
            push found
            pure none
      expect steps anyCommand "do"
      let form ← body steps
      expect steps {} "done"
      return .each line name words form

def patterns : (steps : Nat) → Token → Read (List Word)
  | 0, _ => return []
  | steps + 1, found => do
      let first :=
        match found with
        | .word parts => parts
        | .keyword text => [Part.literal (Bytes.ofText text) false]
        | _ => []
      match ← readToken steps {} with
      | .operator "|" => return first :: (← patterns steps (← readToken steps {}))
      | .operator ")" => return [first]
      | other => unexpectedFor other ")"

def arms : (steps : Nat) → Read (List (List Word × Option Form))
  | 0 => return []
  | steps + 1 => do
      match ← readToken steps { lines := true, keywords := true } with
      | .keyword "esac" => return []
      | found =>
          let first ←
            match found with
            | .operator "(" => readToken steps {}
            | _ => pure found
          let words ← patterns steps first
          let form ← list steps false true none
          match ← readToken steps { lines := true, keywords := true } with
          | .keyword "esac" => return [(words, form)]
          | .operator ";;" => return (words, form) :: (← arms steps)
          | other => unexpectedFor other ";;"

def simple : (steps line : Nat) → (front : Bool) → Parts → Read Form
  | 0, line, _, parts => return .simple line parts.assignments parts.words parts.redirects
  | steps + 1, line, front, parts => do
      let found ← readToken steps { aliases := front }
      match found with
      | .word word =>
          match if front then word.assignment? else none with
          | some assignment =>
              simple steps line true { parts with assignments := parts.assignments ++ [assignment] }
          | none => simple steps line false { parts with words := parts.words ++ [word] }
      | .operator "(" =>
          match parts.words, parts.assignments.isEmpty && parts.redirects.isEmpty with
          | [name], true => definition steps name
          | _, _ =>
              push found
              return .simple line parts.assignments parts.words parts.redirects
      | _ =>
          match ← redirect? steps found with
          | some redirect =>
              simple steps line front { parts with redirects := parts.redirects ++ [redirect] }
          | none =>
              push found
              return .simple line parts.assignments parts.words parts.redirects

def definition : (steps : Nat) → Word → Read Form
  | 0, _ => return nothing
  | steps + 1, name => do
      match ← readToken steps {} with
      | .operator ")" =>
          match functionName? name with
          | some given => return .define given (← command steps anyCommand)
          | none => fail "Bad function name"
      | found => unexpectedFor found ")"

end

inductive Reading where
  | command (form : Option Form) (text : Units) (line : Nat)
  | finished
  | broken (breakage : Breakage)

def stepLimit (text : Units) : Nat :=
  8 * text.length + 100000

def readLine (source : Source) : Except Breakage (Option Form × Source) :=
  list (stepLimit source.text) true false none source

/-- A text in which parameters are expanded, as in a here-document that nothing closes. -/
def template (text : Units) : Word :=
  let awaited : Awaited :=
    { number := 0, delimiter := [Char.ofNat 0], quoted := false, stripsTabs := false }
  match document (stepLimit text) awaited true { text := text } with
  | .ok (word, _) => word
  | .error _ => [Word.literal text true]

/-- Reads the next complete line of commands. The bodies of here-documents come after the commands
that name them, so a line that has some is read once more when they are known. -/
def next (aliases : List (Bytes × Bytes)) (text : Units) (line : Nat) : Reading :=
  let source : Source := { text := text, line := line, aliases := aliases }
  let read : Except Breakage (Option Form × Source) :=
    match readLine source with
    | .error breakage => .error breakage
    | .ok (form, left) =>
        if left.number = 0 then .ok (form, left)
        else readLine { source with known := left.documents }
  match read with
  | .error breakage => .broken breakage
  | .ok (none, { pushed := some .textEnd, .. }) => .finished
  | .ok (form, left) => .command form left.text left.line

end CompilerDriver.Machine.Shell.Reader
