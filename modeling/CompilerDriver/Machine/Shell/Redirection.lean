import CompilerDriver.Machine.Shell.Expansion

/-!
Channels of a shell that stand for something else while a command runs. What a channel stood for
before is kept on an inner channel and given back at the end. All targets are expanded before
anything is opened, but a text is expanded when it is its turn.
-/

namespace CompilerDriver.Machine.Shell.Redirection

open Act
open Kernel (Proc)

/-- A redirection with its target expanded, unless that is a text. -/
inductive Ready where
  | file (channel : Nat) (opening : Kernel.Opening) (path : Bytes)
  | channel (channel other : Nat)
  | close (channel : Nat)
  | text (channel : Nat) (body : Word)

/-- What a channel stood for: the inner channel that has it now, or nothing. -/
structure Kept where
  channel : Nat
  inner : Option Nat

def openingOf (memory : Memory) (opening : Kernel.Opening) (forced : Bool) : Kernel.Opening :=
  if opening = .output && !forced && memory.has "C" then .new else opening

def ready (substitute : Substitute) : Redirect → Act Ready
  | .file channel opening forced target => do
      let path ← Expansion.whole substitute target
      return .file channel (openingOf (← get) opening forced) path
  | .channel channel target => do
      match ← Expansion.whole substitute target with
      | [0x2D] => return .close channel
      | [digit] =>
          if 0x30 ≤ digit && digit ≤ 0x39 then return .channel channel (digit.toNat - 0x30)
          else failText "Syntax error: Bad fd number"
      | _ => failText "Syntax error: Bad fd number"
  | .text channel body => return .text channel body

def reason : OsError → String
  | .numbered number => OsError.name number
  | .described text => text

def openReason (creating : Bool) (error : OsError) : String :=
  if error = .noEntry || error = .notDirectory then
    if creating then "Directory nonexistent" else "No such file"
  else reason error

def openFailure (opening : Kernel.Opening) (path : Bytes) (error : OsError) : Bytes :=
  let creating := opening != .input
  Bytes.ofText (if creating then "cannot create " else "cannot open ") ++ path ++
    Bytes.ofText (": " ++ openReason creating error)

/-- Opens a file. A new one that is there already may still be something that is no file. -/
def openFile (number channel : Nat) (path : Bytes) (opening : Kernel.Opening) (kernel : Kernel) :
    Except OsError Kernel :=
  if opening = .new then
    match kernel.look number path with
    | .ok (place, .file ..) =>
        if (Kernel.deviceAt? place).isSome || (Kernel.channelAt? place).isSome then
          kernel.openFile number channel path .output
        else .error .alreadyThere
    | _ => kernel.openFile number channel path opening
  else kernel.openFile number channel path opening

def openText (number channel : Nat) (bytes : Bytes) (kernel : Kernel) : Kernel :=
  let pipe : Kernel.Pipe := { front := [bytes], size := bytes.length }
  let named := { kernel with
    pipes := (kernel.fresh, pipe) :: kernel.pipes
    fresh := kernel.fresh + 1 }
  named.openOn number channel (.reading kernel.fresh)

def opened (redirect : Ready) (text : Bytes) (number : Nat) (kernel : Kernel) :
    Except Bytes Kernel :=
  match redirect with
  | .file channel opening path =>
      match openFile number channel path opening kernel with
      | .ok next => .ok next
      | .error error => .error (openFailure opening path error)
  | .channel channel other =>
      match kernel.duplicate number channel other with
      | .ok next => .ok next
      | .error _ => .error (Expansion.decimal other ++ Bytes.ofText ": Bad file descriptor")
  | .close channel => .ok (kernel.close number channel)
  | .text channel _ => .ok (openText number channel text kernel)

def channelOf : Ready → Nat
  | .file channel .. | .channel channel _ | .close channel | .text channel _ => channel

def keep (channel : Nat) : Act Kept :=
  run <| Proc.act fun number kernel =>
    if kernel.isOpen number channel then
      let inner := kernel.unused number Kernel.innerChannel
      match kernel.duplicate number inner channel with
      | .ok next => ({ channel := channel, inner := some inner }, next)
      | .error _ => ({ channel := channel, inner := none }, kernel)
    else ({ channel := channel, inner := none }, kernel)

/-- The text of a redirection, if it has one. That it cannot be expanded has been complained
about. -/
def textOf (substitute : Substitute) : Ready → Act (Option Bytes)
  | .text _ body => do
      match ← settle (Expansion.document substitute body) with
      | .ok text => return some text
      | .error .failing => return none
      | .error why => escape why
  | _ => return some []

/-- Carries out redirections in order, up to the first that fails, and says what was kept. A failure
is complained about here. -/
def applyAll (substitute : Substitute) : List Ready → List Kept → Act (List Kept × Bool)
  | [], kept => return (kept, true)
  | redirect :: rest, kept => do
      match ← textOf substitute redirect with
      | none => return (kept, false)
      | some text =>
          let channel := channelOf redirect
          let more ←
            if kept.any fun entry => entry.channel == channel then pure kept
            else do pure ((← keep channel) :: kept)
          let failure ← run <| Proc.act fun number kernel =>
            match opened redirect text number kernel with
            | .ok next => (none, next)
            | .error message => (some message, kernel)
          match failure with
          | none => applyAll substitute rest more
          | some message =>
              complain message
              return (more, false)

def restore (kept : List Kept) : Act Unit :=
  run <| Proc.change fun number kernel =>
    kept.foldl
      (fun kernel entry =>
        match entry.inner with
        | none => kernel.close number entry.channel
        | some inner =>
            match kernel.duplicate number entry.channel inner with
            | .ok next => next.close number inner
            | .error _ => kernel)
      kernel

def forget (kept : List Kept) : Act Unit :=
  run <| Proc.change fun number kernel =>
    kept.foldl
      (fun kernel entry =>
        match entry.inner with
        | none => kernel
        | some inner => kernel.close number inner)
      kernel

/-- The channel for what the shell says of the command itself: where the error channel was
before. -/
def tracingChannel (kept : List Kept) : Nat :=
  ((kept.find? fun entry => entry.channel == 2).bind Kept.inner).getD 2

/-- Carries out redirections around a part. When one fails, that is complained about, and the part
is left out. The part is told where the channels were kept; redirections for good stay behind it.
Says whether the part was done. -/
def around (substitute : Substitute) (redirects : List Redirect) (forGood : Bool)
    (failed : Act Unit) (part : List Kept → Act Unit) : Act Bool := do
  if redirects.isEmpty then
    part []
    return true
  else
    let all ← collect (ready substitute) redirects
    let (kept, succeeded) ← applyAll substitute all []
    if succeeded then
      ensuring (part kept) (if forGood then forget kept else restore kept)
      return true
    else
      setStatus 2
      ensuring failed (restore kept)
      return false

end CompilerDriver.Machine.Shell.Redirection
