import CompilerDriver.Machine.Program.Amount
import CompilerDriver.Machine.Program.Basic

/-!
Programs that compare two files: byte by byte, or line by line.
-/

namespace CompilerDriver.Machine.Program

open Kernel (Proc)

/-- A complaint that asks for help to be read, with the name of the program in front of both
lines. -/
def refuseTwice (call : Call) (message : Bytes) : Proc Nat := do
  complain call message
  complain call (Bytes.ofText "Try '" ++ call.name ++ Bytes.ofText " --help' for more information.")
  return 2

def bothFiles (call : Call) (first second : Bytes) : Proc (Except Nat (Bytes × Bytes)) := do
  match ← content first with
  | .error error => complainAbout first error
  | .ok left =>
      match ← content second with
      | .error error => complainAbout second error
      | .ok right => return .ok (left, right)
where
  content (file : Bytes) : Proc (Except OsError Bytes) := do
    match ← Input.all file with
    | .error error => return .error error
    | .ok (_, some error) => return .error error
    | .ok (text, none) => return .ok text
  complainAbout (file : Bytes) (error : OsError) : Proc (Except Nat (Bytes × Bytes)) := do
    complainOf call file error
    return .error 2

/-- How two texts go together: the places at which they differ, from one on, and the bytes there. -/
def differences : (number : Nat) → Bytes → Bytes → List (Nat × UInt8 × UInt8)
  | number, first :: left, second :: right =>
      if first = second then differences (number + 1) left right
      else (number, first, second) :: differences (number + 1) left right
  | _, _, _ => []

def lineOf (text : Bytes) (place : Nat) : Nat :=
  (text.take (place - 1)).count 0x0A + 1

def octalText (width : Nat) (byte : UInt8) : String :=
  let digits := Nat.toDigits 8 byte.toNat
  String.ofList (List.replicate (width - digits.length) ' ' ++ digits)

def endMessage (call : Call) (lists : Bool) (file shorter : Bytes) : Proc Unit :=
  if shorter.isEmpty then complain call (Bytes.ofText "EOF on " ++ file ++
    Bytes.ofText " which is empty")
  else
    let lines := shorter.count 0x0A
    let isWhole := shorter.getLast? == some 0x0A
    let line :=
      if isWhole then ", line " ++ toString lines else ", in line " ++ toString (lines + 1)
    complain call (Bytes.ofText "EOF on " ++ file ++
      Bytes.ofText (" after byte " ++ toString shorter.length ++ if lists then "" else line))

def compareBytes : Program := fun call => do
  let table : Options.Table :=
    { letters := Options.plain "sl" ++ [('n', .required)]
      names := [{ name := "silent", letter := 's' }, { name := "quiet", letter := 's' },
        { name := "verbose", letter := 'l' },
        { name := "bytes", operand := .required, letter := 'n' }] }
  match Options.take table call.arguments with
  | .error message => refuseTwice call message
  | .ok (_, []) =>
      refuseTwice call (Bytes.ofText "missing operand after " ++ Quoting.word call.name)
  | .ok (given, first :: others) =>
      let second := others.headD [0x2D]
      match ← bothFiles call first second with
      | .error status => return status
      | .ok (left, right) =>
          let limit := (Options.word? 'n' given).bind Amount.read?
          let cut (text : Bytes) : Bytes := limit.elim text text.take
          let (left, right) := (cut left, cut right)
          let found := differences 1 left right
          let lists := Options.has 'l' given
          let isQuiet := Options.has 's' given
          let shorter := if left.length < right.length then (first, left) else (second, right)
          if found.isEmpty && left.length = right.length then return 0
          else if isQuiet then return 1
          else
            match found, lists with
            | (place, _, _) :: _, false =>
                printAll call
                  (first ++ 0x20 :: second ++ Bytes.ofText
                    (" differ: char " ++ toString place ++ ", line " ++
                      toString (lineOf left place) ++ "\n")) 1
            | _, _ =>
                let width := (toString (max left.length right.length)).length
                let line (entry : Nat × UInt8 × UInt8) : String :=
                  let place := toString entry.1
                  String.ofList (List.replicate (width - place.length) ' ') ++ place ++ " " ++
                    octalText 3 entry.2.1 ++ " " ++ octalText 3 entry.2.2 ++ "\n"
                let _ ← printAll call (Bytes.ofText (String.join (found.map line))) 1
                if left.length != right.length then
                  endMessage call lists shorter.1 shorter.2
                return 1

inductive Step where
  | keep
  | drop (line : Bytes)
  | add (line : Bytes)
  deriving Repr, DecidableEq, Inhabited

/-- For each start in the second text, how many lines it has in common with the first one at
most. -/
def commonRow (first : Bytes) (below : List Nat) : List Bytes → List Nat
  | [] => [0]
  | second :: rest =>
      let behind := commonRow first (below.drop 1) rest
      let count :=
        if first = second then below[1]?.getD 0 + 1
        else max (below.headD 0) (behind.headD 0)
      count :: behind

def commonRows (right : List Bytes) : List Bytes → List (List Nat)
  | [] => [List.replicate (right.length + 1) 0]
  | first :: rest =>
      let behind := commonRows right rest
      commonRow first (behind.headD []) right :: behind

def stepsBetween : (steps : Nat) → List (List Nat) → List Bytes → List Bytes → List Step
  | 0, _, _, _ => []
  | steps + 1, rows, left, right =>
      match left, right with
      | [], right => right.map .add
      | left, [] => left.map .drop
      | first :: lefts, second :: rights =>
          let here := rows.headD []
          let below := (rows.drop 1).headD []
          if first = second then
            .keep :: stepsBetween steps ((rows.drop 1).map (List.drop 1)) lefts rights
          else if here[1]?.getD 0 ≤ below.headD 0 then
            .drop first :: stepsBetween steps (rows.drop 1) lefts right
          else .add second :: stepsBetween steps (rows.map (List.drop 1)) left rights

/-- A change: lines of the old text, and the new ones in their place. Lines are counted from one. -/
structure Change where
  place : Nat
  newPlace : Nat
  dropped : List Bytes := []
  added : List Bytes := []

def changesFrom (current : Option Change) (place newPlace : Nat) : List Step → List Change
  | [] => current.toList
  | .keep :: rest => current.toList ++ changesFrom none (place + 1) (newPlace + 1) rest
  | .drop line :: rest =>
      let change := current.getD { place := place, newPlace := newPlace }
      changesFrom (some { change with dropped := change.dropped ++ [line] }) (place + 1) newPlace
        rest
  | .add line :: rest =>
      let change := current.getD { place := place, newPlace := newPlace }
      changesFrom (some { change with added := change.added ++ [line] }) place (newPlace + 1) rest

def rangeText (start count : Nat) : String :=
  if count ≤ 1 then toString start else toString start ++ "," ++ toString (start + count - 1)

/-- A line behind its mark; one without an end says so. -/
def markedLine (mark : String) (line : Bytes) : Bytes :=
  Bytes.ofText mark ++ line ++
    if line.getLast? == some 0x0A then [] else Bytes.ofText "\n\\ No newline at end of file\n"

def Change.text (change : Change) : Bytes :=
  let left := rangeText change.place change.dropped.length
  let right := rangeText change.newPlace change.added.length
  let head :=
    match change.dropped, change.added with
    | [], _ => toString (change.place - 1) ++ "a" ++ right
    | _, [] => left ++ "d" ++ toString (change.newPlace - 1)
    | _, _ => left ++ "c" ++ right
  let divider := if change.dropped.isEmpty || change.added.isEmpty then [] else Bytes.ofText "---\n"
  Bytes.ofText (head ++ "\n") ++ change.dropped.flatMap (markedLine "< ") ++ divider ++
    change.added.flatMap (markedLine "> ")

def changesBetween (left right : Bytes) : List Change :=
  let lefts := Input.linesOf 0x0A left
  let rights := Input.linesOf 0x0A right
  changesFrom none 1 1
    (stepsBetween (lefts.length + rights.length + 1) (commonRows rights lefts) lefts rights)

def paired (file other : Bytes) : Proc Bytes := do
  match ← Proc.ask fun number kernel => kernel.look number file with
  | .ok (_, .directory) => return withoutSlashes file ++ Path.slash :: lastPart other
  | _ => return file

def compareLines : Program := fun call => do
  let table : Options.Table :=
    { letters := Options.plain "qsa"
      names := [{ name := "brief", letter := 'q' },
        { name := "report-identical-files", letter := 's' }, { name := "text", letter := 'a' }] }
  match Options.take table call.arguments with
  | .error message => refuseTwice call message
  | .ok (_, []) =>
      refuseTwice call (Bytes.ofText "missing operand after " ++ Quoting.word call.name)
  | .ok (_, [only]) => refuseTwice call (Bytes.ofText "missing operand after " ++ Quoting.word only)
  | .ok (_, _ :: _ :: extra :: _) =>
      refuseTwice call (Bytes.ofText "extra operand " ++ Quoting.word extra)
  | .ok (given, [one, other]) =>
      let first ← paired one other
      let second ← paired other one
      match ← bothFiles call first second with
      | .error status => return status
      | .ok (left, right) =>
          let names := first ++ Bytes.ofText " and " ++ second
          let isBinary := !Options.has 'a' given && (left.contains 0 || right.contains 0)
          if left = right then
            if Options.has 's' given then
              printAll call
                (Bytes.ofText "Files " ++ names ++ Bytes.ofText " are identical\n") 0
            else return 0
          else if Options.has 'q' given then
            printAll call (Bytes.ofText "Files " ++ names ++ Bytes.ofText " differ\n") 1
          else if isBinary then
            printAll call (Bytes.ofText "Binary files " ++ names ++ Bytes.ofText " differ\n") 2
          else printAll call ((changesBetween left right).flatMap Change.text) 1

end CompilerDriver.Machine.Program
