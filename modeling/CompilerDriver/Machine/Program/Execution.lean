import CompilerDriver.Machine.Kernel.Search
import CompilerDriver.Machine.Program.Support

/-!
Starting a file: it stands for a program of the machine, or names an interpreter in its first line,
which may itself be such a file, up to a depth. The errors are those of the system.
-/

namespace CompilerDriver.Machine.Program

open Kernel (Proc)

/-- Where the programs of the machine are. Their files are empty. -/
def homes : List Place :=
  [[Bytes.ofText "bin"], [Bytes.ofText "usr", Bytes.ofText "bin"]]

def interpreterLine? (bytes : Bytes) : Option (Bytes × Option Bytes) :=
  match bytes with
  | 0x23 :: 0x21 :: rest =>
      let line := rest.takeWhile (· != 0x0A)
      let isBlank (byte : UInt8) : Bool := byte == 0x20 || byte == 0x09
      let trimmed := ((line.dropWhile isBlank).reverse.dropWhile isBlank).reverse
      let (path, behind) := trimmed.span fun byte => !isBlank byte
      let argument := behind.dropWhile isBlank
      if path.isEmpty then none
      else some (path, if argument.isEmpty then none else some argument)
  | _ => none

def isNative (place : Place) (bytes : Bytes) : Bool :=
  homes.contains place.dropLast && bytes.isEmpty

def settle (tree : FileTree) :
    (depth : Nat) → (path : Bytes) → (words : List Bytes) → Except OsError (Name × List Bytes)
  | 0, _, _ => .error .tooManyLinks
  | depth + 1, path, words =>
      match tree.look ⟨path⟩ with
      | .error error => .error error
      | .ok (_, .directory) => .error .denied
      | .ok (place, .file bytes executable) =>
          if !executable then .error .denied
          else if isNative place bytes then .ok (place.getLast?.getD [], words)
          else
            match interpreterLine? bytes with
            | none => .error .badFormat
            | some (interpreter, argument) =>
                settle tree depth interpreter
                  (interpreter :: argument.toList ++ path :: words.drop 1)

def settleDepth : Nat := 5

def startSpan : Nat := 500000

def clear : Proc Unit := do
  Proc.change fun number kernel =>
    (kernel.modify number fun process => { process with caught := [], pending := [] }).closeInner
      number
  Proc.elapse startSpan

def execute (native : Name → Option Program) : Execute := fun path call => do
  match ← Proc.ask fun number kernel =>
      settle (kernel.treeOf number) settleDepth path call.words with
  | .error error => return error
  | .ok (name, words) =>
      match native name with
      | none => return .badFormat
      | some program =>
          clear
          Proc.exit (← program { call with words := words })

/-- Puts a program in the place of another one, looked for by its name. A file that is no program
and names no interpreter is read by the shell. -/
def executeNamed (execute : Execute) (call : Call) : Proc OsError := do
  let list := (call.environment.lookup (Bytes.ofText "PATH")).getD Kernel.Search.usualPath
  match ← Proc.ask fun number kernel =>
      Kernel.Search.find (kernel.treeOf number) list call.name with
  | .error error => return error
  | .ok path =>
      match ← execute path call with
      | .numbered 8 =>
          let shell := Bytes.ofText "/bin/sh"
          execute shell { call with words := shell :: path :: call.arguments }
      | error => return error

end CompilerDriver.Machine.Program
