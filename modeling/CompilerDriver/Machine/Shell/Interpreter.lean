import CompilerDriver.Machine.Program.Execution
import CompilerDriver.Machine.Shell.Builtin
import CompilerDriver.Machine.Shell.Redirection

/-!
Running the forms of a script. Each rule is given the way to run the forms inside it and to start
programs, and the whole interpreter is these rules applied to themselves up to a depth. What runs
apart from the shell runs in processes of its own.
-/

namespace CompilerDriver.Machine.Shell

open Kernel (Proc)

/-- The way to run forms and to start programs. Of a form it is told whether its status is asked
about, and whether it is the last thing that the process does. -/
structure Engine where
  run : (tested last : Bool) → Form → Act Unit
  execute : Program.Execute

namespace Interpreter

open Act

def wholeLines (count : Nat) (text : Units) : Units :=
  let front := text.take count
  let behind := text.drop count
  if front.getLast? == some '\n' then front
  else front ++ behind.takeWhile (· != '\n') ++ (behind.dropWhile (· != '\n')).take 1

def showRead (isShown : Bool) (text : Units) : Act Unit := do
  if isShown && (← get).has "v" then say 2 text.toBytes

/-- Runs the lines of a text one after another, and comes to the status of the last one. Text that
was read from somewhere can be shown. -/
def runLines (engine : Engine) (tested isShown : Bool) :
    (steps : Nat) → Units → (line status : Nat) → Act Nat
  | 0, _, _, status => return status
  | steps + 1, text, line, status => do
      match Reader.next (← get).aliases text line with
      | .finished =>
          showRead isShown text
          return status
      | .broken breakage =>
          showRead isShown (wholeLines (text.length - breakage.left) text)
          modify fun memory => { memory with line := breakage.line }
          failText ("Syntax error: " ++ breakage.message)
      | .command form? left next => do
          showRead isShown (text.take (text.length - left.length))
          match form? with
          | none => runLines engine tested isShown steps left next status
          | some form =>
              modify fun memory =>
                { memory with isAtEnd := left.isEmpty && text.getLast? != some '\n' }
              engine.run tested false form
              runLines engine tested isShown steps left next (← get).status

def unitsOf (text : Bytes) : Units :=
  Units.ofBytes (text.filter (· != 0))

def runUnits (engine : Engine) (tested isShown : Bool) (text : Units) : Act Nat :=
  runLines engine tested isShown (text.length + 1) text 1 0

def runText (engine : Engine) (tested : Bool) (text : Bytes) : Act Nat :=
  runUnits engine tested false (unitsOf text)

def runRead (engine : Engine) (text : Bytes) : Act Nat :=
  runUnits engine false true (unitsOf text)

def takePending : Act (List Nat) :=
  run <| Proc.act fun number kernel =>
    ((kernel.process number).pending.mergeSort,
      kernel.modify number fun process => { process with pending := [] })

def putBack (signals : List Nat) : Act Unit :=
  run <| Proc.change fun number kernel =>
    kernel.modify number fun process => { process with pending := signals ++ process.pending }

/-- Runs what was set for signals. The status is brought back, unless a return asks for another
one. -/
def runActions (engine : Engine) (status : Nat) (before : Option Nat) : List Nat → Act Unit
  | [] => pure ()
  | signal :: rest => do
      match (← get).traps.lookup signal with
      | none => runActions engine status before rest
      | some action =>
          match ← settle (runText engine false action) with
          | .ok _ =>
              setStatus status
              runActions engine status before rest
          | .error why =>
              match why with
              | .failing | .ending _ => escape why
              | .returning false => pure ()
              | _ => setStatus status
              putBack rest
              modify fun memory => { memory with interrupted := before }
              escape why

def runPending (engine : Engine) : Act Unit := do
  let memory ← get
  if memory.traps.any fun entry => entry.1 != 0 && !entry.2.isEmpty then
    let signals ← takePending
    unless signals.isEmpty do
      let status := memory.interrupted.getD memory.status
      modify fun memory => { memory with interrupted := some status }
      runActions engine status memory.interrupted signals
      modify fun after => { after with interrupted := memory.interrupted }

/-- What a shell ends with: the status that was asked for or interrupted, unless a failure came in
between. -/
def settleStatus (result : Except Escape Unit) : Act Unit :=
  modify fun memory =>
    let status :=
      match result with
      | .error (.ending false) | .error .failing => memory.status
      | _ => memory.interrupted.getD memory.status
    { memory with status := status, interrupted := none }

/-- Does a part as the whole of a shell: at its end runs what was set for the end. -/
def toEnd (engine : Engine) (part : Act Unit) : Act Unit := do
  settleStatus (← settle part)
  let memory ← get
  match memory.traps.lookup 0 with
  | none => pure ()
  | some action =>
      modify fun memory =>
        { memory with
          traps := Kernel.dropKey memory.traps 0
          interrupted := some memory.status }
      settleStatus (← settle (do let _ ← runText engine false action))

def forget (memory : Memory) : Memory :=
  { memory with
    traps := memory.traps.filter fun entry => entry.2.isEmpty
    jobs := []
    interrupted := none }

/-- What a process does not take over from the shell that it is a copy of. In the background it does
not hear what is typed. -/
def quieten (inBackground : Bool) (process : Kernel.Process) : Kernel.Process :=
  { process with
    caught := []
    ignored :=
      if inBackground then
        Kernel.Signal.interrupt :: Kernel.Signal.quit :: process.ignored
      else process.ignored }

def forkShell (engine : Engine) (inBackground : Bool) (part : Act Unit) : Act Nat :=
  fun memory rest =>
    let whole := toEnd engine (do modify forget; part)
    Proc.fork (quieten inBackground)
      (fun leave => whole memory fun _ last => leave (last.status % 256))
      fun number => rest (.ok number) memory

def moveChannel (channel target : Nat) : Act Unit :=
  run <| Proc.change fun number kernel =>
    match kernel.duplicate number target channel with
    | .ok next => next.close number channel
    | .error _ => kernel

def closeChannel (channel : Nat) : Act Unit :=
  run <| Proc.change fun number kernel => kernel.close number channel

def openPipe : Act (Nat × Nat) :=
  run <| Proc.act fun number kernel =>
    let (input, output, next) := kernel.openPipe number
    ((input, output), next)

def substitute (engine : Engine) : Substitute := fun script => do
  match script with
  | none => return []
  | some form =>
      let (input, output) ← openPipe
      let child ← forkShell engine false do
        closeChannel input
        moveChannel output 1
        engine.run false true form
      closeChannel output
      let (bytes, _) ← run (Proc.readAll input)
      closeChannel input
      let status ← awaitAll [child]
      modify fun memory => { memory with printed := status }
      return bytes

def hasActions (memory : Memory) : Bool :=
  memory.traps.any fun entry => !entry.2.isEmpty

def startReason (error : OsError) : String :=
  if error = .noEntry || error = .notDirectory then "not found" else Redirection.reason error

def startStatus (error : OsError) : Nat :=
  let nowhere := [OsError.noEntry, .notDirectory, .nameTooLong, .tooManyLinks]
  if nowhere.contains error then 127 else 126

def frontSize : Nat := 128

def isForeign (byte : UInt8) : Bool :=
  byte ≤ 0x08 || 0x10 ≤ byte && byte ≤ 0x1F && byte != 0x1B || byte = 0x7F

def isForeignFile (path : Bytes) : Act Bool :=
  run <| Proc.ask fun number kernel =>
    match kernel.readFile number path with
    | .ok bytes => ((bytes.take frontSize).takeWhile (· != 0x0A)).any isForeign
    | .error _ => false

/-- Puts a program in the place of the shell. A file that is no program and names no interpreter is
read by a shell, if it looks like a script. When that fails, the shell ends. -/
def become (engine : Engine) (path : Bytes) (words : List Bytes) : Act Unit := do
  let environment := (← get).environment
  let name := words.headD []
  let shell := Bytes.ofText "/bin/sh"
  let first ← run (engine.execute path { words := words, environment := environment })
  let last ←
    if first = .badFormat && !(← isForeignFile path) then
      run (engine.execute shell
        { words := shell :: path :: words.drop 1, environment := environment })
    else pure first
  complain (name ++ Bytes.ofText (": " ++ startReason last))
  setStatus (startStatus last)
  escape (.ending false)

def external (engine : Engine) (last : Bool) (list : Option Bytes) (words : List Bytes) :
    Act Unit := do
  let name := words.headD []
  let found ←
    match list with
    | some directories => Lookup.findIn directories name
    | none => Lookup.find name
  match found with
  | .error error =>
      complain (name ++ Bytes.ofText (": " ++ startReason error))
      setStatus 127
  | .ok path =>
      if last && !hasActions (← get) then become engine path words
      else
        let child ← forkShell engine false (become engine path words)
        setStatus (← awaitAll [child])

def functionDepth : Nat := 1000

def callFunction (engine : Engine) (tested : Bool) (body : Form) (arguments : List Bytes) :
    Act Unit := do
  let memory ← get
  if functionDepth ≤ memory.depth then
    failText ("Maximum function recursion depth (" ++ toString functionDepth ++ ") reached")
  else
    modify fun memory =>
      { memory with arguments := arguments, place := {}, loops := 0, depth := memory.depth + 1 }
    let result ← settle (engine.run tested false body)
    modify fun after =>
      { after with
        arguments := memory.arguments
        place := memory.place
        loops := memory.loops
        depth := memory.depth }
    match result with
    | .ok _ | .error (.returning _) => pure ()
    | .error why => escape why

def firstFile (paths : List Bytes) : Act (Option Bytes) :=
  run <| Proc.ask fun number kernel => paths.find? fun path =>
    match kernel.look number path with
    | .ok (_, .file ..) => true
    | _ => false

/-- Runs a file in this very shell. A name without slashes is looked for in the search path. -/
def sourceFile (engine : Engine) : Builtin.Action := fun words => do
  match (← Builtin.takeOptions "" words).2 with
  | [] => return 0
  | file :: _ =>
      let memory ← get
      let path ←
        if file.contains Path.slash then pure file
        else
          let directories := Path.splitAt 0x3A (Lookup.searchList memory)
          match ← firstFile (directories.map fun base => Kernel.Search.below base file) with
          | some path => pure path
          | none => fail (file ++ Bytes.ofText ": not found")
      match ← run (Proc.ask fun number kernel => kernel.readFile number path) with
      | .error .isDirectory => return 0
      | .error error => fail (Redirection.openFailure .input path error)
      | .ok text =>
          modify fun memory => { memory with command := some path }
          match ← settle (runRead engine text) with
          | .ok status => return status
          | .error (.returning _) => return (← get).status
          | .error why => escape why

def replace (engine : Engine) : Builtin.Action := fun words => do
  match words with
  | [] => return 0
  | name :: _ =>
      match ← Lookup.find name with
      | .ok path =>
          become engine path words
          return 0
      | .error error =>
          complain (name ++ Bytes.ofText (": " ++ startReason error))
          setStatus (startStatus error)
          escape (.ending false)

def evaluate (engine : Engine) (tested : Bool) : Builtin.Action := fun words =>
  runText engine tested (Path.joinWith 0x20 words)

def action? (engine : Engine) (tested : Bool) (name : Bytes) : Option Builtin.Action :=
  match Builtin.shown name with
  | "." => some (sourceFile engine)
  | "eval" => some (evaluate engine tested)
  | "exec" => some (replace engine)
  | _ => Builtin.ofName? name

/-- Runs a command of the shell. A complaint of one that is not special does not end the shell. -/
def runBuiltin (special : Bool) (name : Bytes) (action : Act Nat) : Act Unit := do
  let before := (← get).command
  modify fun memory => { memory with command := some name }
  let result ← settle action
  modify fun memory => { memory with command := before }
  match result with
  | .ok status => setStatus status
  | .error .failing => if special then escape .failing else pure ()
  | .error why => escape why

/-- The words of a command as far as they are expanded, and what is known of it. -/
structure Resolved where
  /-- All words, with those that only say how the others are to be run. -/
  all : List Bytes
  words : List Bytes
  rest : List Word
  list : Option Bytes := none
  passesFunctions : Bool := false
  /-- Whether the first command of the shell among them is a special one. -/
  special : Option Bool := none
  deriving Inhabited

def expandNext (engine : Engine) : List Word → Act (List Bytes × List Word)
  | [] => return ([], [])
  | word :: rest => do
      let fields ← Expansion.fields (substitute engine) word
      if fields.isEmpty then expandNext engine rest else return (fields, rest)

def isBuiltinNow (memory : Memory) (passesFunctions : Bool) (name : Bytes) : Bool :=
  (passesFunctions || (memory.functions.lookup name).isNone) && Builtin.isBuiltin name

/-- The words behind one that asks to run them as no function. Nothing when it asks for something
else instead. -/
def behindCommand (engine : Engine) :
    (steps : Nat) → (ended : Bool) → Resolved → Act (Option Resolved × Resolved)
  | 0, _, resolved => return (none, resolved)
  | steps + 1, ended, resolved => do
      let filled ←
        match resolved.words with
        | [] => do
            let (more, rest) ← expandNext engine resolved.rest
            pure { resolved with all := resolved.all ++ more, words := more, rest := rest }
        | _ => pure resolved
      match filled.words with
      | [] => return (none, filled)
      | word :: others =>
          let isOption := !ended && word.head? == some 0x2D && word.length != 1
          if !isOption then
            return (some { filled with passesFunctions := true }, filled)
          else
            let left := { filled with words := others }
            if word = [0x2D, 0x2D] then behindCommand engine steps true left
            else if (word.drop 1).all (· == 0x70) then
              behindCommand engine steps false { left with list := some Kernel.Search.usualPath }
            else return (none, filled)

/-- Finds out what the first words are about, and expands as many of the others as that takes. -/
def resolve (engine : Engine) : (steps : Nat) → Resolved → Act Resolved
  | 0, resolved => return resolved
  | steps + 1, resolved => do
      let memory ← get
      match resolved.words with
      | [] => return resolved
      | name :: others =>
          if !isBuiltinNow memory resolved.passesFunctions name then return resolved
          else
            let noted :=
              { resolved with special := resolved.special.or (some (Builtin.isSpecial name)) }
            if Builtin.shown name != "command" then return noted
            else
              let limit := others.length + resolved.rest.length + 1
              match ← behindCommand engine limit false { noted with words := others } with
              | (some next, _) => resolve engine steps next
              | (none, filled) =>
                  return { noted with
                    all := filled.all
                    rest := filled.rest
                    words := noted.words ++ filled.all.drop noted.all.length }

/-- The fields of the words left over. Behind some commands, an assignment is expanded like one. -/
def expandRest (engine : Engine) (takesAssignments : Bool) : List Word → Act (List Bytes)
  | [] => return []
  | word :: rest => do
      let fields ←
        match if takesAssignments then word.assignment? else none with
        | some (name, value) => do
            let bytes ← Expansion.assigned (substitute engine) value
            pure [name ++ 0x3D :: bytes]
        | none => Expansion.fields (substitute engine) word
      return fields ++ (← expandRest engine takesAssignments rest)

def assignAll (engine : Engine) (covers exports : Bool) :
    List (Bytes × Word) → Act (List Bytes)
  | [] => return []
  | (name, word) :: rest => do
      let value ← Expansion.assigned (substitute engine) word
      if covers then modify fun memory => memory.keep name
      assign name value
      if covers || exports then modify fun memory => memory.markExported name
      return (name ++ 0x3D :: value) :: (← assignAll engine covers exports rest)

def promptName : Bytes := Bytes.ofText "PS4"

def holdsScript : Units → Bool
  | '$' :: '(' :: unit :: rest => unit != '(' || holdsScript (unit :: rest)
  | _ :: rest => holdsScript rest
  | [] => false

/-- What is shown in front of a command. A script in it cannot be read behind the end of the script
that is being run. -/
def tracePrompt (engine : Engine) : Act Bytes := do
  let memory ← get
  let text := (memory.value? promptName).getD []
  let units := Units.ofBytes text
  if holdsScript units && memory.isAtEnd then
    modify fun memory => { memory with isAtEnd := false }
    complainText "Syntax error: end of file unexpected (expecting \")\")"
    return text
  else Expansion.document (substitute engine) (Reader.template units)

def trace (engine : Engine) (channel : Nat) (words : List Bytes) : Act Unit := do
  let memory ← get
  if memory.has "x" && !memory.isTracing then
    modify fun memory => { memory with isTracing := true }
    let prompt ← ensuring (tracePrompt engine) do
      modify fun memory => { memory with isTracing := false }
    say channel (prompt ++ Path.joinWith 0x20 words ++ [0x0A])

def carryOut (engine : Engine) (tested last : Bool) (resolved : Resolved) : Act Unit := do
  let memory ← get
  match resolved.words with
  | [] => setStatus memory.printed
  | name :: arguments =>
      let function :=
        if resolved.passesFunctions then none else memory.functions.lookup name
      match function, action? engine tested name with
      | some body, _ => callFunction engine tested body arguments
      | none, some action =>
          runBuiltin (resolved.special.getD false) name (action arguments)
      | none, none => external engine last resolved.list resolved.words

def isReplacement (memory : Memory) (resolved : Resolved) : Bool :=
  match resolved.words with
  | name :: _ =>
      Builtin.shown name == "exec" && isBuiltinNow memory resolved.passesFunctions name
  | [] => false

def command (engine : Engine) (tested last : Bool) (assignments : List (Bytes × Word))
    (redirects : List Redirect) (resolved : Resolved) : Act Unit := do
  let replaces := isReplacement (← get) resolved
  let special := resolved.special.getD false
  let covers := !resolved.words.isEmpty && !special
  let failed : Act Unit := if special then escape .failing else pure ()
  let _ ← Redirection.around (substitute engine) redirects replaces failed fun kept => do
    if covers then modify Memory.openFrame
    let body : Act Unit := do
      let exports := replaces && 1 < resolved.words.length
      let assigned ← assignAll engine covers exports assignments
      unless assigned.isEmpty && resolved.all.isEmpty do
        trace engine (Redirection.tracingChannel kept) (assigned ++ resolved.all)
      carryOut engine tested last resolved
    if covers then ensuring body (modify Memory.closeFrame) else body

def simple (engine : Engine) (tested last : Bool) (assignments : List (Bytes × Word))
    (words : List Word) (redirects : List Redirect) : Act Unit := do
  modify fun memory => { memory with printed := 0 }
  let (first, rest) ← expandNext engine words
  let start : Resolved := { all := first, words := first, rest := rest }
  let resolved ← resolve engine (words.length + 1) start
  let memory ← get
  let takesAssignments :=
    match resolved.words with
    | name :: _ =>
        isBuiltinNow memory resolved.passesFunctions name && Builtin.takesAssignments name
    | [] => false
  let others ← expandRest engine takesAssignments resolved.rest
  command engine tested last assignments redirects
    { resolved with all := resolved.all ++ others, words := resolved.words ++ others, rest := [] }
  reap

def startStages (engine : Engine) (tested inBackground : Bool) :
    (input : Option Nat) → (isFirst : Bool) → List Form → Act (List Nat)
  | _, _, [] => return []
  | input, isFirst, form :: rest => do
      let pipe ← if rest.isEmpty then pure none else do pure (some (← openPipe))
      let child ← forkShell engine inBackground do
        if inBackground && isFirst then
          run <| Proc.change fun number kernel => kernel.openOn number 0 (.device .null)
        match pipe with
        | some (reading, _) => closeChannel reading
        | none => pure ()
        match input with
        | some channel => moveChannel channel 0
        | none => pure ()
        match pipe with
        | some (_, writing) => moveChannel writing 1
        | none => pure ()
        engine.run tested true form
      match input with
      | some channel => closeChannel channel
      | none => pure ()
      match pipe with
      | some (_, writing) => closeChannel writing
      | none => pure ()
      return child ::
        (← startStages engine tested inBackground (pipe.map Prod.fst) false rest)

def pipeline (engine : Engine) (tested : Bool) (forms : List Form) : Act Unit := do
  let children ← startStages engine tested false none true forms
  setStatus (← awaitAll children)
  reap

def background (engine : Engine) (form : Form) : Act Unit := do
  let forms :=
    match form with
    | .pipeline forms => forms
    | _ => [form]
  addJob (← startStages engine false true none true forms)
  setStatus 0

def subshell (engine : Engine) (tested last : Bool) (body : Form) (redirects : List Redirect) :
    Act Unit := do
  let inside : Act Unit := engine.run tested true body
  let ready ← collect (Redirection.ready (substitute engine)) redirects
  let whole : Act Unit := do
    let (_, succeeded) ← Redirection.applyAll (substitute engine) ready []
    if succeeded then inside
    else
      setStatus 2
      escape .failing
  if last && !hasActions (← get) then whole
  else
    let child ← forkShell engine false whole
    setStatus (← awaitAll [child])
    reap

/-- What comes of one part of a round of a loop. -/
inductive Round where
  | finished
  | skipped
  | left
  deriving DecidableEq

def round (part : Act Unit) : Act Round := do
  match ← settle part with
  | .ok _ => return .finished
  | .error (.breaking (level + 2)) => escape (.breaking (level + 1))
  | .error (.breaking _) => return .left
  | .error (.continuing (level + 2)) => escape (.continuing (level + 1))
  | .error (.continuing _) => return .skipped
  | .error why => escape why

def looping (part : Act Unit) : Act Unit := do
  let loops := (← get).loops
  modify fun memory => { memory with loops := loops + 1 }
  ensuring part (modify fun memory => { memory with loops := loops })

def roundLimit : Nat := 1000000000

/-- Runs rounds of a loop. The status is that of the last body. -/
def rounds (engine : Engine) (tested untilTrue : Bool) (condition body : Form) :
    (limit status : Nat) → Act Unit
  | 0, status => setStatus status
  | limit + 1, status => do
      match ← round (engine.run true false condition) with
      | .left => setStatus status
      | .skipped => rounds engine tested untilTrue condition body limit status
      | .finished =>
          if ((← get).status == 0) == untilTrue then setStatus status
          else
            match ← round (engine.run tested false body) with
            | .left => pure ()
            | _ => rounds engine tested untilTrue condition body limit (← get).status

def each (engine : Engine) (tested : Bool) (name : Bytes) (body : Form) : List Bytes → Act Unit
  | [] => pure ()
  | value :: rest => do
      assign name value
      match ← round (engine.run tested false body) with
      | .left => pure ()
      | _ => each engine tested name body rest

def coversAny (engine : Engine) (text : Units) : List Word → Act Bool
  | [] => return false
  | word :: rest => do
      if (← Expansion.pattern (substitute engine) word).covers text then return true
      else coversAny engine text rest

def chooseArm (engine : Engine) (tested last : Bool) (text : Units) :
    List (List Word × Option Form) → Act Unit
  | [] => setStatus 0
  | (words, body) :: rest => do
      if ← coversAny engine text words then
        match body with
        | some form => engine.run tested last form
        | none => setStatus 0
      else chooseArm engine tested last text rest

/-! ### The rules -/

def setLine (line : Nat) : Act Unit :=
  modify fun memory => { memory with line := line }

def commandSpan : Nat := 1500

def hasFailed : Act Bool :=
  view fun memory => memory.status != 0

/-- One rule for each form. It says whether a failure of the form is one that the shell may end
at. -/
def perform (engine : Engine) (tested last : Bool) : Form → Act Bool
  | .simple line assignments words redirects => do
      setLine line
      run (Proc.elapse commandSpan)
      simple engine tested last assignments words redirects
      return true
  | .redirected line body redirects => do
      setLine line
      let isDone ← Redirection.around (substitute engine) redirects false (pure ()) fun _ =>
        engine.run tested false body
      return !isDone
  | .pipeline forms => do
      pipeline engine tested forms
      return true
  | .negated body => do
      engine.run true false body
      setStatus (if ← hasFailed then 0 else 1)
      return false
  | .both left right => do
      engine.run true false left
      unless ← hasFailed do engine.run tested last right
      return false
  | .either left right => do
      engine.run true false left
      if ← hasFailed then engine.run tested last right
      return false
  | .sequence first second => do
      engine.run tested false first
      engine.run tested last second
      return false
  | .background line body => do
      setLine line
      background engine body
      return false
  | .subshell line body redirects => do
      setLine line
      subshell engine tested last body redirects
      return true
  | .branch condition body otherwise => do
      engine.run true false condition
      match ← hasFailed, otherwise with
      | false, _ => engine.run tested last body
      | true, some other => engine.run tested last other
      | true, none => setStatus 0
      return false
  | .loop untilTrue condition body => do
      looping (rounds engine tested untilTrue condition body roundLimit 0)
      return false
  | .each line name words body => do
      setLine line
      let values ←
        match words with
        | none => view Memory.arguments
        | some list => expandRest engine false list
      setStatus 0
      looping (each engine tested name body values)
      return false
  | .choose line word arms => do
      setLine line
      let text ← Expansion.whole (substitute engine) word
      chooseArm engine tested last (Units.ofBytes text) arms
      return false
  | .define name body => do
      modify fun memory =>
        { memory with functions := Kernel.setKey memory.functions name body, status := 0 }
      return false

/-- Runs a form between looks at the signals that have come in. A failure that nobody asks about
ends the shell where that is set, and so does the last form of a process. -/
def rule (engine : Engine) (tested last : Bool) (form : Form) : Act Unit := do
  unless (← get).has "n" do
    runPending engine
    let counts ← perform engine tested last form
    runPending engine
    if counts && !tested && (← get).has "e" && (← hasFailed) then escape (.ending false)
  if last then escape (.ending false)

end Interpreter

end CompilerDriver.Machine.Shell
