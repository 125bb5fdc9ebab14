import CompilerDriver.Machine.Program.Options

/-!
What programs read: files by name and standard input, which a minus sign names. A program reads to
the end, or piece by piece as far as it wants to.
-/

namespace CompilerDriver.Machine.Program

open Kernel (Proc)

namespace Input

def isStandard (file : Bytes) : Bool :=
  file == [0x2D]

/-- How a file is called in messages of a program that has a name for standard input. -/
def title (file : Bytes) : Bytes :=
  if isStandard file then Bytes.ofText "standard input" else file

def opened (file : Bytes) : Proc (Except OsError Nat) := do
  if isStandard file then return .ok 0
  else
    Proc.act fun number kernel =>
      let channel := kernel.unused number 3
      match kernel.openFile number channel file .input with
      | .ok next => (.ok channel, next)
      | .error error => (.error error, kernel)

def close (channel : Nat) : Proc Unit :=
  if channel = 0 then pure ()
  else Proc.change fun number kernel => kernel.close number channel

def giveBack (channel count : Nat) : Proc Unit :=
  Proc.change fun number kernel =>
    match kernel.stream? number channel with
    | some (stream, .file place offset access) =>
        kernel.setStream stream (.file place (offset - count) access)
    | some (stream, .adrift file offset access) =>
        kernel.setStream stream (.adrift file (offset - count) access)
    | _ => kernel

def all (file : Bytes) : Proc (Except OsError (Bytes × Option OsError)) := do
  match ← opened file with
  | .error error => return .error error
  | .ok channel =>
      let result ← Proc.readAll channel
      close channel
      return .ok result

/-- What a program does with a piece: the new state, what it writes, and how much of the piece it
left if it wants no more. -/
structure Taken (σ : Type) where
  state : σ
  output : Bytes
  left : Option Nat := none

/-- Why reading piece by piece came to its end. -/
inductive Ending where
  | done
  | unread (error : OsError)
  | unwritten (error : OsError)

def eachPiece {σ : Type} (channel : Nat) (take : σ → Bytes → Taken σ) :
    (steps : Nat) → σ → Proc (σ × Ending)
  | 0, state => return (state, .done)
  | steps + 1, state => do
      match ← Proc.read channel Proc.pieceSize with
      | .error error => return (state, .unread error)
      | .ok [] => return (state, .done)
      | .ok piece =>
          let taken := take state piece
          match ← Proc.write 1 taken.output with
          | .error error => return (taken.state, .unwritten error)
          | .ok _ =>
              match taken.left with
              | some count =>
                  giveBack channel count
                  return (taken.state, .done)
              | none => eachPiece channel take steps taken.state

def stream {σ : Type} (channel : Nat) (state : σ) (take : σ → Bytes → Taken σ) :
    Proc (σ × Ending) :=
  eachPiece channel take Proc.readLimit state

/-- The lines of a text, each with the byte that ends it, which the last one may lack. -/
def linesOf (ending : UInt8) (text : Bytes) : List Bytes :=
  let step (state : List Bytes × Bytes) (byte : UInt8) : List Bytes × Bytes :=
    if byte = ending then ((byte :: state.2).reverse :: state.1, [])
    else (state.1, byte :: state.2)
  let (lines, rest) := text.foldl step ([], [])
  (if rest.isEmpty then lines else rest.reverse :: lines).reverse

def bare (ending : UInt8) (line : Bytes) : Bytes :=
  if line.getLast? = some ending then line.dropLast else line

def bareLines (ending : UInt8) (text : Bytes) : List Bytes :=
  (linesOf ending text).map (bare ending)

/-- A state beside the beginning of a line that has not been read to its end. -/
structure Partial (σ : Type) where
  state : σ
  begun : Bytes := []

def throughLines {σ : Type} (take : σ → Bytes → σ × Bytes) (state : σ) (lines : List Bytes) :
    σ × Bytes :=
  let (last, pieces) := lines.foldl
    (fun (state, pieces) line =>
      let (next, output) := take state line
      (next, output :: pieces))
    (state, [])
  (last, pieces.reverse.flatten)

/-- Runs a state through the lines that can be read from a channel, each with its end, until it
wants no more. The last line may lack its end. -/
def streamLinesUntil {σ : Type} (isDone : σ → Bool) (ending : UInt8) (channel : Nat) (state : σ)
    (take : σ → Bytes → σ × Bytes) : Proc (σ × Ending) := do
  let guarded (state : σ) (line : Bytes) : σ × Bytes :=
    if isDone state then (state, []) else take state line
  let piecewise (held : Partial σ) (piece : Bytes) : Taken (Partial σ) :=
    let lines := linesOf ending (held.begun ++ piece)
    let isCut := piece.getLast? != some ending
    let whole := if isCut then lines.dropLast else lines
    let (next, output) := throughLines guarded held.state whole
    let begun := if isCut then lines.getLast?.getD [] else []
    { state := { state := next, begun := begun }
      output := output
      left := if isDone next then some 0 else none }
  let start : Partial σ := { state := state }
  let (last, ending) ← stream channel start piecewise
  match ending, last.begun with
  | .unwritten _, _ | _, [] => return (last.state, ending)
  | _, begun =>
      let (next, output) := guarded last.state begun
      match ← Proc.write 1 output with
      | .ok _ => return (next, ending)
      | .error error => return (next, .unwritten error)

def streamLines {σ : Type} : (ending : UInt8) → (channel : Nat) → (state : σ) →
    (take : σ → Bytes → σ × Bytes) → Proc (σ × Ending) :=
  streamLinesUntil fun _ => false

end Input

end CompilerDriver.Machine.Program
