import CompilerDriver.Machine.Kernel.Files
import CompilerDriver.Machine.Shell.Arithmetic

/-!
Conditions on texts, numbers and files, as the test command decides them. Up to four words are read
by their number; beyond that, alternatives are made of joint conditions, these of negations, and at
the bottom is a word, or an operator with its operands.
-/

namespace CompilerDriver.Machine.Shell.Test

structure Scene where
  kernel : Kernel
  process : Nat

abbrev Verdict := Except String Bool

def illegal (word : Bytes) : String :=
  "Illegal number: " ++ Text.Utf8.lossy word

def compare (left right : Bytes) (holds : Int → Int → Bool) : Verdict :=
  match Arithmetic.decimal? left, Arithmetic.decimal? right with
  | none, _ => .error (illegal left)
  | _, none => .error (illegal right)
  | some one, some other => .ok (holds one other)

inductive Operator where
  | unary (name : String)
  | binary (name : String)
  | negation
  | jointly
  | alternately
  | opening
  | closing
  deriving Repr, DecidableEq

def unaryNames : List String :=
  ["-r", "-w", "-x", "-e", "-f", "-d", "-c", "-b", "-p", "-u", "-g", "-k", "-s", "-t", "-z", "-n",
   "-h", "-L", "-O", "-G", "-S"]

def binaryNames : List String :=
  ["=", "!=", "<", ">", "-eq", "-ne", "-ge", "-gt", "-le", "-lt", "-nt", "-ot", "-ef"]

def operator? (word : Bytes) : Option Operator :=
  match Text.Utf8.lossy word with
  | "!" => some .negation
  | "-a" => some .jointly
  | "-o" => some .alternately
  | "(" => some .opening
  | ")" => some .closing
  | text =>
      if unaryNames.contains text then some (.unary text)
      else if binaryNames.contains text then some (.binary text)
      else none

def isBinary (word : Bytes) : Bool :=
  match operator? word with
  | some (.binary _) => true
  | _ => false

/-- Whether a word that could be an operator with one operand is an operand itself. -/
def isOperand : List Bytes → Bool
  | [] => true
  | [_] => false
  | next :: _ => isBinary next

def front? : List Bytes → Option Operator
  | [] => none
  | word :: rest =>
      match operator? word with
      | some (.unary name) => if isOperand rest then none else some (.unary name)
      | some .opening => if rest.isEmpty then none else some .opening
      | found => found

def node? (scene : Scene) (path : Bytes) : Option (Place × Node) :=
  (scene.kernel.look scene.process path).toOption

def isDevice (place : Place) : Bool :=
  (Kernel.deviceAt? place).isSome || Kernel.isTerminal place || (Kernel.channelAt? place).isSome

def holdsOfFile (name : String) (place : Place) (node : Node) : Bool :=
  match name with
  | "-d" => node == .directory
  | "-f" => node != .directory && !isDevice place
  | "-c" => isDevice place
  | "-x" =>
      match node with
      | .file _ executable => executable
      | .directory => true
  | "-s" =>
      match node with
      | .file bytes _ => !bytes.isEmpty
      | .directory => true
  | "-e" | "-r" | "-w" | "-O" | "-G" => true
  | _ => false

def unary (scene : Scene) (name : String) (operand : Bytes) : Verdict :=
  match name with
  | "-n" => .ok (!operand.isEmpty)
  | "-z" => .ok operand.isEmpty
  | "-t" => if (Arithmetic.decimal? operand).isSome then .ok false else .error (illegal operand)
  | _ =>
      match node? scene operand with
      | some (place, node) => .ok (holdsOfFile name place node)
      | none => .ok false

/-- When a file was last written; one that nobody wrote is older than all others. -/
def stamp? (scene : Scene) (path : Bytes) : Option Nat :=
  (node? scene path).map fun found => (scene.kernel.stamps.lookup found.1).getD 0

def relate (scene : Scene) (left right : Bytes) (holds : Nat → Nat → Bool) : Bool :=
  match stamp? scene left, stamp? scene right with
  | some one, some other => holds one other
  | _, _ => false

def binary (scene : Scene) (left : Bytes) (name : String) (right : Bytes) : Verdict :=
  match name with
  | "=" => .ok (left == right)
  | "!=" => .ok (left != right)
  | "<" => .ok (left != right && FileTree.bytesLe left right)
  | ">" => .ok (left != right && FileTree.bytesLe right left)
  | "-eq" => compare left right fun one other => one == other
  | "-ne" => compare left right fun one other => one != other
  | "-lt" => compare left right fun one other => one < other
  | "-le" => compare left right fun one other => one ≤ other
  | "-gt" => compare left right fun one other => other < one
  | "-ge" => compare left right fun one other => other ≤ one
  | "-nt" => .ok (relate scene left right fun one other => other < one)
  | "-ot" => .ok (relate scene left right fun one other => one < other)
  | _ =>
      .ok <|
        match node? scene left, node? scene right with
        | some one, some other => one.1 == other.1
        | _, _ => false

/-- A part of an expression: whether it holds, and the words from its last one on. -/
abbrev Step := Except String (Bool × List Bytes)

mutual

/-- Alternatives. The operator at the front may be known already. -/
def alternatives (scene : Scene) : (steps : Nat) → Option Operator → List Bytes → Step
  | 0, _, words => .ok (false, words)
  | steps + 1, front, words =>
      match joint scene steps front words with
      | .error message => .error message
      | .ok (holds, left) =>
          if front? (left.drop 1) = some .alternately then
            let rest := left.drop 2
            (alternatives scene steps (front? rest) rest).map fun (other, behind) =>
              (holds || other, behind)
          else .ok (holds, left)

def joint (scene : Scene) : (steps : Nat) → Option Operator → List Bytes → Step
  | 0, _, words => .ok (false, words)
  | steps + 1, front, words =>
      match negated scene steps front words with
      | .error message => .error message
      | .ok (holds, left) =>
          if front? (left.drop 1) = some .jointly then
            let rest := left.drop 2
            (joint scene steps (front? rest) rest).map fun (other, behind) =>
              (holds && other, behind)
          else .ok (holds, left)

def negated (scene : Scene) : (steps : Nat) → Option Operator → List Bytes → Step
  | 0, _, words => .ok (false, words)
  | steps + 1, front, words =>
      if front = some .negation then
        match words.drop 1 with
        | [] => .ok (true, words)
        | rest => (negated scene steps (front? rest) rest).map fun (holds, left) => (!holds, left)
      else primary scene steps front words

def primary (scene : Scene) : (steps : Nat) → Option Operator → List Bytes → Step
  | 0, _, words => .ok (false, words)
  | steps + 1, front, words =>
      match words, front with
      | [], _ => .ok (false, [])
      | _ :: rest, some .opening =>
          if front? rest = some .closing then .ok (false, rest)
          else
            match alternatives scene steps (front? rest) rest with
            | .error message => .error message
            | .ok (holds, left) =>
                if front? (left.drop 1) = some .closing then .ok (holds, left.drop 1)
                else .error "closing paren expected"
      | _ :: rest, some (.unary name) =>
          match rest with
          | [] => .error (name ++ ": argument expected")
          | operand :: _ => (unary scene name operand).map fun holds => (holds, rest)
      | word :: rest, _ =>
          match front? rest with
          | some (.binary name) =>
              match rest.drop 1 with
              | [] => .error (name ++ ": argument expected")
              | operand :: more =>
                  (binary scene word name operand).map fun holds => (holds, operand :: more)
          | _ => .ok (!word.isEmpty, words)

end

def expression (scene : Scene) (front : Option Operator) (words : List Bytes) : Verdict :=
  match alternatives scene (8 * words.length + 8) front words with
  | .error message => .error message
  | .ok (holds, left) =>
      match left with
      | word :: _ :: _ =>
          .error (if word.isEmpty then "unexpected operator"
            else Text.Utf8.lossy word ++ ": unexpected operator")
      | _ => .ok holds

def isGrouped (words : List Bytes) : Bool :=
  (words.head?.bind operator?) == some .opening && (words.getLast?.bind operator?) == some .closing

/-- Decides a condition. Three words with an operator between are compared; otherwise three or four
words may be negated or stand in parentheses. A second negation in front of these changes
nothing. -/
def decide (scene : Scene) : (isNegated : Bool) → List Bytes → Verdict
  | isNegated, [] => .ok isNegated
  | isNegated, first :: rest =>
      let words := first :: rest
      let settle (front : Option Operator) (words : List Bytes) : Verdict :=
        (expression scene front words).map fun holds => holds != isNegated
      let isComparison :=
        match rest with
        | [middle, _] => isBinary middle
        | _ => false
      if isComparison then settle none words
      else if words.length = 3 || words.length = 4 then
        if isGrouped words then settle (front? rest.dropLast) rest.dropLast
        else if operator? first = some .negation then decide scene true rest
        else settle (front? words) words
      else settle (front? words) words

def holds (scene : Scene) (words : List Bytes) : Verdict :=
  decide scene false words

end CompilerDriver.Machine.Shell.Test
