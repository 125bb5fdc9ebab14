import CompilerDriver.Machine.Program.Basic
import CompilerDriver.Machine.Program.Input

/-!
Programs that start other programs: one with words that are read, and one for a limited time.
-/

namespace CompilerDriver.Machine.Program

open Kernel (Proc)

/-- Starts a program apart, with nothing to read. `failed` says what comes of it if it cannot be
started. -/
def startApart (execute : Execute) (call : Call) (failed : OsError → Proc Nat) : Proc Nat :=
  Proc.fork id do
    Proc.change fun number kernel =>
      match kernel.openFile number 0 (Bytes.ofText "/dev/null") .input with
      | .ok next => next
      | .error _ => kernel
    let error ← executeNamed execute call
    failed error

def startFailure (error : OsError) : Nat :=
  if error = .noEntry then 127 else 126

namespace Gathering

inductive Manner where
  | words
  | lines
  | divided (mark : UInt8)
  deriving Repr, DecidableEq, Inhabited

inductive Quote where
  | none
  | single
  | double
  deriving Repr, DecidableEq, Inhabited

def isBlank (byte : UInt8) : Bool :=
  byte == 0x20 || byte == 0x09

/-- A word that is being read, if one has begun. -/
structure Draft where
  found : List Bytes := []
  current : Option Bytes := none
  quote : Quote := .none

def Draft.add (draft : Draft) (byte : UInt8) : Draft :=
  { draft with current := some (byte :: draft.current.getD []) }

def Draft.close (draft : Draft) : Draft :=
  match draft.current with
  | some word => { draft with found := word.reverse :: draft.found, current := none }
  | none => draft

/-- Words between blanks, or whole lines, in which quotes and backslashes keep what they stand
for. -/
def split (wholeLines : Bool) : Draft → Bytes → Except Bytes (List Bytes)
  | draft, [] =>
      match draft.quote with
      | .none => .ok draft.close.found.reverse
      | .single => unmatched "single"
      | .double => unmatched "double"
  | draft, byte :: rest =>
      match draft.quote, Char.ofNat byte.toNat with
      | .single, '\'' | .double, '"' => split wholeLines { draft with quote := .none } rest
      | .single, '\n' => unmatched "single"
      | .double, '\n' => unmatched "double"
      | .single, _ | .double, _ => split wholeLines (draft.add byte) rest
      | .none, '\'' =>
          split wholeLines { draft with quote := .single, current := some (draft.current.getD []) }
            rest
      | .none, '"' =>
          split wholeLines { draft with quote := .double, current := some (draft.current.getD []) }
            rest
      | .none, '\\' =>
          match rest with
          | kept :: behind => split wholeLines (draft.add kept) behind
          | [] => split wholeLines draft []
      | .none, '\n' => split wholeLines draft.close rest
      | .none, _ =>
          if isBlank byte && (!wholeLines || draft.current.isNone) then
            split wholeLines (if wholeLines then draft else draft.close) rest
          else split wholeLines (draft.add byte) rest
where
  unmatched (kind : String) : Except Bytes (List Bytes) :=
    .error <| Bytes.ofText <|
      "unmatched " ++ kind ++
        " quote; by default quotes are special to xargs unless you use the -0 option"

def itemsOf (manner : Manner) (text : Bytes) : Except Bytes (List Bytes) :=
  match manner with
  | .words => split false {} text
  | .lines => split true {} text
  | .divided mark => .ok (Input.bareLines mark text)

def grouped (size : Nat) : (steps : Nat) → List Bytes → List (List Bytes)
  | 0, _ => []
  | steps + 1, items =>
      if items.isEmpty then []
      else items.take size :: grouped size steps (items.drop size)

def placed (mark item : Bytes) : (steps : Nat) → Bytes → Bytes
  | 0, word => word
  | steps + 1, word =>
      match word with
      | [] => []
      | byte :: rest =>
          if !mark.isEmpty && mark.isPrefixOf word then
            item ++ placed mark item steps (word.drop mark.length)
          else byte :: placed mark item steps rest

/-- Starts the program once for each list of words, and comes to the status of all. -/
def runAll (execute : Execute) (call : Call) (shows : Bool) : (status : Nat) → List (List Bytes) →
    Proc Nat
  | status, [] => return status
  | status, words :: rest => do
      if shows then warn (Path.joinWith 0x20 words ++ [0x0A])
      let name := words.headD []
      let started := { call with words := words }
      let child ← startApart execute started fun error => do
        complain call (name ++ Bytes.ofText (": " ++ reason error))
        return startFailure error
      match ← Proc.await child with
      | .exited 0 => runAll execute call shows status rest
      | .exited 126 => return 126
      | .exited 127 => return 127
      | .exited 255 =>
          complain call (name ++ Bytes.ofText ": exited with status 255; aborting")
          return 124
      | .exited _ => runAll execute call shows 123 rest
      | .signalled signal =>
          complain call
            (name ++ Bytes.ofText (": terminated by signal " ++ toString signal))
          return 125

def table : Options.Table :=
  { letters := Options.plain "0rtxp" ++
      [('n', .required), ('I', .required), ('i', .optional), ('L', .required), ('d', .required),
       ('P', .required), ('s', .required), ('E', .required), ('a', .required), ('l', .optional)]
    names := [{ name := "null", letter := '0' }, { name := "no-run-if-empty", letter := 'r' },
      { name := "verbose", letter := 't' },
      { name := "max-args", operand := .required, letter := 'n' },
      { name := "replace", operand := .optional, letter := 'i' },
      { name := "max-lines", operand := .optional, letter := 'L' },
      { name := "delimiter", operand := .required, letter := 'd' },
      { name := "max-procs", operand := .required, letter := 'P' },
      { name := "arg-file", operand := .required, letter := 'a' }]
    inFront := true }

def markOf (word : Bytes) : UInt8 :=
  match word with
  | [0x5C, 0x6E] => 0x0A
  | [0x5C, 0x74] => 0x09
  | [0x5C, 0x30] => 0
  | byte :: _ => byte
  | [] => 0x0A

def calls (given : List Options.Given) (front items : List Bytes) : List (List Bytes) :=
  let count (letter : Char) : Option Nat :=
    (Options.word? letter given).bind fun word => (shown word).toNat?
  match Options.last? ['I', 'i'] given with
  | some option =>
      let mark := option.word.getD (Bytes.ofText "\x7b\x7d")
      items.map fun item => front.map fun word => placed mark item (word.length + 1) word
  | none =>
      let most := (count 'n').getD (max 1 items.length)
      if items.isEmpty then if Options.has 'r' given then [] else [front]
      else (grouped (max 1 most) (items.length + 1) items).map fun group => front ++ group

def lineCalls (front : List Bytes) (count : Nat) (text : Bytes) :
    Except Bytes (List (List Bytes)) :=
  let lines := (Input.bareLines 0x0A text).filter fun line => !line.all isBlank
  (grouped (max 1 count) (lines.length + 1) lines).foldr
    (fun group found =>
      match split false {} (Path.joinWith 0x0A group), found with
      | .ok words, .ok others => .ok ((front ++ words) :: others)
      | .error message, _ | _, .error message => .error message)
    (.ok [])

def program (execute : Execute) : Program := fun call =>
  Options.withOptions call table 1 fun given words => do
    let front := if words.isEmpty then [Bytes.ofText "echo"] else words
    let manner : Manner :=
      match Options.last? ['0', 'd'] given with
      | some { letter := '0', .. } => .divided 0
      | some option => .divided (markOf (option.word.getD []))
      | none => if (Options.last? ['I', 'i'] given).isSome then .lines else .words
    match ← Input.all ((Options.word? 'a' given).getD [0x2D]) with
    | .error error =>
        complain call
          (Bytes.ofText "Cannot open input file " ++
            Quoting.word ((Options.word? 'a' given).getD []) ++
            Bytes.ofText (": " ++ reason error))
        return 1
    | .ok (text, _) =>
        let byLines := (Options.word? 'L' given).bind fun word => (shown word).toNat?
        let found :=
          match byLines with
          | some count => lineCalls front count text
          | none => (itemsOf manner text).map (calls given front)
        match found with
        | .error message =>
            complain call message
            return 1
        | .ok found => runAll execute call (Options.has 't' given) 0 found

end Gathering

namespace Limit

def isBelow (kernel : Kernel) (top : Nat) : (depth : Nat) → (number : Nat) → Bool
  | 0, _ => false
  | depth + 1, number =>
      number == top || isBelow kernel top depth (kernel.process number).parent

def depthLimit : Nat := 1000

def sendBelow (signal top : Nat) : Proc Unit :=
  Proc.change fun number kernel =>
    let reached := kernel.processes.filter fun entry =>
      isBelow kernel top depthLimit entry.1 && !Kernel.hasEnded entry.2
    reached.foldl (fun kernel entry => kernel.send number entry.1 signal) kernel

def endBy (signal : Nat) : Proc Nat := do
  Proc.change fun number kernel => kernel.condemn number number signal
  return 128 + signal

def watch (call : Call) (isTold : Bool) (name : Bytes) (signal child span : Nat)
    (killSpan : Option Nat) : Proc Nat := do
  Proc.elapse span
  let tell (signal : Nat) : Proc Unit := do
    if isTold then
      complain call
        (Bytes.ofText ("sending signal " ++ Kernel.Signal.name signal ++ " to command ") ++
          Quoting.word name)
  tell signal
  sendBelow signal child
  match killSpan with
  | some span =>
      Proc.elapse span
      tell Kernel.Signal.kill
      sendBelow Kernel.Signal.kill child
  | none => pure ()
  return 0

def table : Options.Table :=
  { letters := [('s', .required), ('k', .required), ('v', .none), ('f', .none), ('p', .none)]
    names := [{ name := "signal", operand := .required, letter := 's' },
      { name := "kill-after", operand := .required, letter := 'k' },
      { name := "verbose", letter := 'v' }, { name := "foreground", letter := 'f' },
      { name := "preserve-status", letter := 'p' }]
    inFront := true }

def settle (given : List Options.Given) (isLate : Bool) (ending : Kernel.Ending) : Proc Nat :=
  match ending, isLate with
  | .exited status, false => return status
  | .exited status, true => return if Options.has 'p' given then status else 124
  | .signalled signal, false => endBy signal
  | .signalled signal, true =>
      if signal = Kernel.Signal.kill then endBy signal
      else return if Options.has 'p' given then 128 + signal else 124

def start (execute : Execute) (call : Call) (given : List Options.Given) (words : List Bytes)
    (signal span : Nat) (killSpan : Option Nat) : Proc Nat := do
  let name := words.headD []
  let child ← Proc.fork id do
    let error ← executeNamed execute { call with words := words }
    complain call (Bytes.ofText "failed to run command " ++ Quoting.word name ++
      Bytes.ofText (": " ++ reason error))
    return startFailure error
  if span = 0 then
    let ending ← Proc.await child
    settle given false ending
  else
    let isTold := Options.has 'v' given
    let limit ← Proc.ask fun _ kernel => kernel.clock + Proc.forkSpan + span
    let quieten (process : Kernel.Process) : Kernel.Process :=
      { process with
        channels := process.channels.filter fun channel => isTold && channel.1 == 2 }
    let watcher ← Proc.fork quieten (watch call isTold name signal child span killSpan)
    let ending ← Proc.await child
    let isLate ← Proc.ask fun _ kernel => decide (limit ≤ kernel.clock)
    Proc.change fun number kernel => kernel.condemn number watcher Kernel.Signal.kill
    settle given isLate ending

def program (execute : Execute) : Program := fun call =>
  Options.withOptions call table 125 fun given words => do
    let interval (word : Bytes) : Proc Nat :=
      refuse call 125 (Bytes.ofText "invalid time interval " ++ Quoting.word word)
    let signal :=
      match Options.word? 's' given with
      | some word => Kernel.Signal.ofWord? 1 word
      | none => some Kernel.Signal.terminate
    match words, signal, (Options.word? 'k' given).map fun word => (word, span? word) with
    | _, none, _ =>
        refuse call 125
          (Quoting.word ((Options.word? 's' given).getD []) ++ Bytes.ofText ": invalid signal")
    | _, _, some (word, none) => interval word
    | [], _, _ | [_], _, _ =>
        warn (Bytes.ofText "Try '" ++ call.name ++ Bytes.ofText " --help' for more information.\n")
        return 125
    | word :: command, some signal, kill =>
        match span? word with
        | none => interval word
        | some none => start execute call given command signal 0 none
        | some (some span) =>
            start execute call given command signal span ((kill.bind Prod.snd).bind id)

end Limit

end CompilerDriver.Machine.Program
