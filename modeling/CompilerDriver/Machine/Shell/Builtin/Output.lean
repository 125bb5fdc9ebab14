import CompilerDriver.Machine.Shell.Builtin.Support
import CompilerDriver.Machine.Shell.Format
import CompilerDriver.Machine.Shell.Test

/-!
The commands that only print or only decide: words, formatted text, and conditions.
-/

namespace CompilerDriver.Machine.Shell.Builtin

open Act
open Kernel (Proc)

/-- The words with blanks between and an end of line behind, which a first minus n leaves out. -/
def echo : Action := fun words => do
  let (newLine, rest) :=
    match words with
    | [0x2D, 0x6E] :: rest => (false, rest)
    | _ => (true, words)
  let text := Units.ofBytes (Path.joinWith 0x20 rest)
  let (units, ends) := Format.unescape (text.length + 1) text
  print (Units.toBytes units ++ if newLine && !ends then [0x0A] else [])

def complaintText : Format.Complaint → Bytes
  | .notNumeric argument => Units.toBytes argument ++ Bytes.ofText ": expected numeric value"
  | .cutShort argument => Units.toBytes argument ++ Bytes.ofText ": not completely converted"
  | .outOfRange argument => Units.toBytes argument ++ Bytes.ofText ": Numerical result out of range"
  | .unknown directive => Units.toBytes directive ++ Bytes.ofText ": invalid directive"
  | .unfinished => Bytes.ofText "missing format character"

def printf : Action := fun words => do
  match (← takeOptions "" words).2 with
  | [] => failText "usage: printf format [arg ...]"
  | template :: arguments =>
      let output := Format.format (Units.ofBytes template) (arguments.map Units.ofBytes)
      forEach (fun complaint => complain (complaintText complaint)) output.complaints
      let status ← print (Units.toBytes output.units)
      if output.complaints.any Format.Complaint.isFatal then return 2
      else return if output.complaints.isEmpty then status else 1

def decide (words : List Bytes) : Act Nat := do
  let scene : Test.Scene ←
    run (Proc.ask fun number kernel => { kernel := kernel, process := number })
  match Test.holds scene words with
  | .ok true => return 0
  | .ok false => return 1
  | .error message => failText message

def test : Action := decide

def bracket : Action := fun words => do
  if words.getLast? = some [0x5D] then decide words.dropLast else failText "missing ]"

end CompilerDriver.Machine.Shell.Builtin
