import CompilerDriver.Machine.Program.Support
import CompilerDriver.Machine.Shell.Test

/-!
Conditions as the program decides them that stands beside the shell's own command. Up to four words
are read by their number; beyond that, alternatives are made of joint conditions, these of terms.
All of them are looked at, whatever has been decided before.
-/

namespace CompilerDriver.Machine.Program.Condition

open Kernel (Proc)
open Shell.Test (Scene)

/-- Whether words hold, with those behind them that were not looked at, or what is wrong with
them. -/
abbrev Step := Except Bytes (Bool × List Bytes)

/-- What conditions are decided with: the machine, and the last of all words. -/
structure Setting where
  scene : Scene
  last : Bytes

def text (word : Bytes) : String :=
  Text.Utf8.lossy word

def Setting.beyond {α : Type} (setting : Setting) : Except Bytes α :=
  .error (Bytes.ofText "missing argument after " ++ Quoting.word setting.last)

def expected {α : Type} (word : Bytes) (what : String) : Except Bytes α :=
  .error (Quoting.word word ++ Bytes.ofText (": " ++ what ++ " expected"))

def isBlank (byte : UInt8) : Bool :=
  byte = 0x20 || 0x09 ≤ byte && byte ≤ 0x0D

def isDigit (byte : UInt8) : Bool :=
  0x30 ≤ byte && byte ≤ 0x39

def integer? (word : Bytes) : Option Int :=
  let bare := word.dropWhile isBlank
  let (negative, unsigned) :=
    match bare with
    | 0x2D :: rest => (true, rest)
    | 0x2B :: rest => (false, rest)
    | rest => (false, rest)
  let (digits, behind) := unsigned.span isDigit
  if digits.isEmpty || !behind.all isBlank then none
  else
    let size : Int := digits.foldl (fun value byte => 10 * value + (byte.toNat - 0x30 : Nat)) 0
    some (if negative then -size else size)

def compare (left right : Bytes) (holds : Int → Int → Bool) : Except Bytes Bool :=
  let invalid (word : Bytes) : Except Bytes Bool :=
    .error (Bytes.ofText "invalid integer " ++ Quoting.word word)
  match integer? left, integer? right with
  | none, _ => invalid left
  | _, none => invalid right
  | some one, some other => .ok (holds one other)

def binaryNames : List String :=
  ["=", "!=", "==", "-nt", "-ot", "-ef", "-eq", "-ne", "-lt", "-le", "-gt", "-ge"]

def isBinary (word : Bytes) : Bool :=
  binaryNames.contains (text word)

/-- Which of two files is newer; one that is not there is older than all others. -/
def isNewer (scene : Scene) (left right : Bytes) : Bool :=
  match Shell.Test.stamp? scene left, Shell.Test.stamp? scene right with
  | some one, some other => other < one
  | some _, none => true
  | none, _ => false

def binary (scene : Scene) (left name right : Bytes) : Except Bytes Bool :=
  match text name with
  | "=" | "==" => .ok (left == right)
  | "!=" => .ok (left != right)
  | "-nt" => .ok (isNewer scene left right)
  | "-ot" => .ok (isNewer scene right left)
  | "-eq" => compare left right fun one other => one == other
  | "-ne" => compare left right fun one other => one != other
  | "-lt" => compare left right fun one other => one < other
  | "-le" => compare left right fun one other => one ≤ other
  | "-gt" => compare left right fun one other => other < one
  | "-ge" => compare left right fun one other => other ≤ one
  | _ => (Shell.Test.binary scene left (text name) right).mapError Bytes.ofText

def unaryNames : List String :=
  "-N" :: Shell.Test.unaryNames

def looksUnary (word : Bytes) : Bool :=
  word.head? == some 0x2D && word.length == 2

def unary (setting : Setting) (name : Bytes) (rest : List Bytes) : Step :=
  if !unaryNames.contains (text name) then expected name "unary operator"
  else
    match rest with
    | [] => setting.beyond
    | operand :: behind =>
        if text name = "-t" then
          (compare operand operand fun _ _ => false).map fun holds => (holds, behind)
        else
          match Shell.Test.unary setting.scene (text name) operand with
          | .ok holds => .ok (holds, behind)
          | .error message => .error (Bytes.ofText message)

def isMark (mark : String) (word : Bytes) : Bool :=
  word == Bytes.ofText mark

def one : Bytes → List Bytes → Step := fun word rest =>
  .ok (!word.isEmpty, rest)

def negate (step : Step) : Step :=
  step.map fun (holds, rest) => (!holds, rest)

def two (setting : Setting) (first second : Bytes) (rest : List Bytes) : Step :=
  if isMark "!" first then negate (one second rest)
  else if looksUnary first then unary setting first (second :: rest)
  else setting.beyond

mutual

def counted (setting : Setting) : (steps : Nat) → (count : Nat) → List Bytes → Step
  | 0, _, words => .ok (false, words)
  | steps + 1, count, words =>
      match count, words with
      | 1, first :: rest => one first rest
      | 2, first :: second :: rest => two setting first second rest
      | 3, first :: second :: third :: rest => three setting steps first second third rest
      | 4, first :: second :: third :: fourth :: rest =>
          if isMark "!" first then negate (three setting steps second third fourth rest)
          else if isMark "(" first && isMark ")" fourth then two setting second third rest
          else alternatives setting steps words
      | _, _ => alternatives setting steps words

def three (setting : Setting) : (steps : Nat) → (first second third : Bytes) → List Bytes → Step
  | 0, _, _, _, rest => .ok (false, rest)
  | steps + 1, first, second, third, rest =>
      if isBinary second then
        (binary setting.scene first second third).map fun holds => (holds, rest)
      else if isMark "!" first then negate (two setting second third rest)
      else if isMark "(" first && isMark ")" third then one second rest
      else if isMark "-a" second || isMark "-o" second then
        alternatives setting steps (first :: second :: third :: rest)
      else expected second "binary operator"

def alternatives (setting : Setting) : (steps : Nat) → List Bytes → Step
  | 0, words => .ok (false, words)
  | steps + 1, words => do
      let (holds, rest) ← joint setting steps words
      match rest with
      | mark :: behind =>
          if isMark "-o" mark then
            let (other, left) ← alternatives setting steps behind
            return (holds || other, left)
          else return (holds, rest)
      | [] => return (holds, [])

def joint (setting : Setting) : (steps : Nat) → List Bytes → Step
  | 0, words => .ok (false, words)
  | steps + 1, words => do
      let (holds, rest) ← term setting steps words
      match rest with
      | mark :: behind =>
          if isMark "-a" mark then
            let (other, left) ← joint setting steps behind
            return (holds && other, left)
          else return (holds, rest)
      | [] => return (holds, [])

def term (setting : Setting) : (steps : Nat) → List Bytes → Step
  | 0, words => .ok (false, words)
  | steps + 1, words =>
      match words with
      | [] => setting.beyond
      | first :: rest =>
          if isMark "!" first then negate (term setting steps rest)
          else if isMark "(" first then group setting steps rest
          else
            match rest with
            | name :: operand :: behind =>
                if isBinary name then
                  (binary setting.scene first name operand).map fun holds => (holds, behind)
                else if looksUnary first then unary setting first rest
                else one first rest
            | _ => if looksUnary first then unary setting first rest else one first rest

def group (setting : Setting) : (steps : Nat) → List Bytes → Step
  | 0, words => .ok (false, words)
  | steps + 1, words =>
      if words.isEmpty then setting.beyond
      else
        let inside := 1 + ((words.drop 1).takeWhile fun word => !isMark ")" word).length
        let count := if inside ≤ 4 then inside else words.length
        match counted setting steps count words with
        | .error message => .error message
        | .ok (_, []) => .error (Quoting.word (Bytes.ofText ")") ++ Bytes.ofText " expected")
        | .ok (holds, mark :: behind) =>
            if isMark ")" mark then .ok (holds, behind)
            else
              .error (Quoting.word (Bytes.ofText ")") ++ Bytes.ofText " expected, found " ++
                Quoting.word mark)

end

def holds (scene : Scene) (words : List Bytes) : Except Bytes Bool :=
  match words with
  | [] => .ok false
  | _ =>
      let setting : Setting := { scene := scene, last := words.getLast?.getD [] }
      match counted setting (8 * words.length + 8) words.length words with
      | .error message => .error message
      | .ok (holds, []) => .ok holds
      | .ok (_, extra :: _) => .error (Bytes.ofText "extra argument " ++ Quoting.word extra)

def decide (call : Call) (words : List Bytes) : Proc Nat := do
  let scene : Scene ← Proc.ask fun number kernel => { kernel := kernel, process := number }
  match holds scene words with
  | .ok true => return 0
  | .ok false => return 1
  | .error message =>
      complain call message
      return 2

def test : Program := fun call =>
  decide call call.arguments

def bracket : Program := fun call => do
  if call.arguments.getLast? = some [0x5D] then decide call call.arguments.dropLast
  else
    complainText call "missing ']'"
    return 2

end CompilerDriver.Machine.Program.Condition
