import CompilerDriver.Machine.Floating
import CompilerDriver.Machine.Program.Execution
import CompilerDriver.Machine.Program.Options
import CompilerDriver.Machine.Shell.Format

/-!
The programs that look at no file: they print what they are given, wait, or start other programs.
-/

namespace CompilerDriver.Machine.Program

open Kernel (Proc)
open Shell (Units)

def succeed : Program := fun _ => return 0

def failing : Program := fun _ => return 1

def isEchoOption (word : Bytes) : Bool :=
  match word with
  | 0x2D :: letter :: more =>
      (letter :: more).all fun byte => [0x6E, 0x65, 0x45].contains byte
  | _ => false

def hexadecimalUnit? (text : Units) : Option (Char × Units) :=
  let digits := (text.take 2).takeWhile Floating.isHexadecimal
  if digits.isEmpty then none
  else some (Char.ofNat (Floating.inBase 16 digits), text.drop digits.length)

/-- Text with its escapes replaced, and whether it asks for the end of all output. -/
def unescape : (steps : Nat) → Units → Units × Bool
  | 0, text => (text, false)
  | steps + 1, text =>
      let also (front rest : Units) : Units × Bool :=
        let (more, ends) := unescape steps rest
        (front ++ more, ends)
      match text with
      | [] => ([], false)
      | '\\' :: 'c' :: _ => ([], true)
      | '\\' :: 'x' :: rest =>
          match hexadecimalUnit? rest with
          | some (unit, left) => also [unit] left
          | none => also ['\\', 'x'] rest
      | '\\' :: '0' :: rest =>
          let (value, left) := Shell.Format.octal 3 rest
          also [value] left
      | '\\' :: rest =>
          let (value, left) := Shell.Format.escape rest
          also value left
      | unit :: rest => also [unit] rest

def echo : Program := fun call => do
  let options := call.arguments.takeWhile isEchoOption
  let words := call.arguments.drop options.length
  let letters := options.flatMap fun word => word.drop 1
  let interprets :=
    ((letters.filter fun letter => letter != 0x6E).getLast?).any fun letter => letter == 0x65
  let text := Units.ofBytes (Path.joinWith 0x20 words)
  let (units, ends) := if interprets then unescape (text.length + 1) text else (text, false)
  let newLine := !letters.contains 0x6E && !ends
  printAll call (Units.toBytes units ++ if newLine then [0x0A] else []) 0

def complaintText : Shell.Format.Complaint → Bytes
  | .notNumeric argument =>
      Quoting.word (Units.toBytes argument) ++ Bytes.ofText ": expected a numeric value"
  | .cutShort argument =>
      Quoting.word (Units.toBytes argument) ++ Bytes.ofText ": value not completely converted"
  | .outOfRange argument =>
      Quoting.word (Units.toBytes argument) ++ Bytes.ofText ": Numerical result out of range"
  | .unknown directive =>
      Units.toBytes directive ++ Bytes.ofText ": invalid conversion specification"
  | .unfinished => Bytes.ofText "%: invalid conversion specification"

def takesArguments : Units → Bool
  | '%' :: '%' :: rest => takesArguments rest
  | '%' :: _ => true
  | _ :: rest => takesArguments rest
  | [] => false

def printf : Program := fun call => do
  let words :=
    match call.arguments with
    | [0x2D, 0x2D] :: rest => rest
    | words => words
  match words with
  | [] => refuseText call 1 "missing operand"
  | template :: arguments =>
      let units := Units.ofBytes template
      let output := Shell.Format.format units (arguments.map Units.ofBytes)
      let complaints := output.complaints.filter (· != .notNumeric [])
      let _ ← forEach (fun message => do complain call message; return 0)
        (complaints.map complaintText)
      match takesArguments units, arguments with
      | false, extra :: _ =>
          complain call (Bytes.ofText "warning: ignoring excess arguments, starting with " ++
            Quoting.word extra)
      | _, _ => pure ()
      printAll call (Units.toBytes output.units) (if complaints.isEmpty then 0 else 1)

def repeatLine (call : Call) (block : Bytes) : (steps : Nat) → Proc Nat
  | 0 => return 0
  | steps + 1 => do
      match ← Proc.write 1 block with
      | .ok _ => repeatLine call block steps
      | .error error =>
          complain call (Bytes.ofText ("standard output: " ++ reason error))
          return 1

def yes : Program := fun call =>
  Options.withOptions call {} 1 fun _ words => do
    let line := (if words.isEmpty then [0x79] else Path.joinWith 0x20 words) ++ [0x0A]
    repeatLine call (List.replicate (8192 / line.length + 1) line).flatten Proc.readLimit

def withoutSlashes (path : Bytes) : Bytes :=
  (path.reverse.dropWhile (· == Path.slash)).reverse

def lastPart (path : Bytes) : Bytes :=
  if path.isEmpty then []
  else
    let bare := withoutSlashes path
    if bare.isEmpty then [Path.slash]
    else (bare.reverse.takeWhile (· != Path.slash)).reverse

def withoutSuffix (suffix name : Bytes) : Bytes :=
  if suffix.length < name.length && suffix.isSuffixOf name then
    name.take (name.length - suffix.length)
  else name

def frontPart (path : Bytes) : Bytes :=
  let bare := withoutSlashes path
  if bare.isEmpty then if path.isEmpty then Path.here else [Path.slash]
  else
    let front := (bare.reverse.dropWhile (· != Path.slash)).reverse
    if front.isEmpty then Path.here
    else
      let shown := withoutSlashes front
      if shown.isEmpty then [Path.slash] else shown

def endOf (given : List Options.Given) : Bytes :=
  if Options.has 'z' given then [0] else [0x0A]

def baseName : Program := fun call =>
  let table : Options.Table :=
    { letters := [('a', .none), ('s', .required), ('z', .none)]
      names := [{ name := "multiple", letter := 'a' },
        { name := "suffix", operand := .required, letter := 's' },
        { name := "zero", letter := 'z' }]
      inFront := true }
  Options.withOptions call table 1 fun given words => do
    let many := Options.has 'a' given || Options.has 's' given
    let suffix := (Options.word? 's' given).getD []
    match many, words with
    | _, [] => refuseText call 1 "missing operand"
    | true, names =>
        printAll call
          (names.flatMap fun name => withoutSuffix suffix (lastPart name) ++ endOf given) 0
    | false, [name] => printAll call (lastPart name ++ endOf given) 0
    | false, [name, suffix] =>
        printAll call (withoutSuffix suffix (lastPart name) ++ endOf given) 0
    | false, _ :: _ :: extra :: _ =>
        refuse call 1 (Bytes.ofText "extra operand " ++ Quoting.word extra)

def directoryName : Program := fun call =>
  let table : Options.Table :=
    { letters := [('z', .none)], names := [{ name := "zero", letter := 'z' }] }
  Options.withOptions call table 1 fun given words =>
    if words.isEmpty then refuseText call 1 "missing operand"
    else printAll call (words.flatMap fun path => frontPart path ++ endOf given) 0

def workingDirectory : Program := fun call =>
  let table : Options.Table :=
    { letters := Options.plain "LP"
      names := [{ name := "logical", letter := 'L' }, { name := "physical", letter := 'P' }] }
  Options.withOptions call table 1 fun _ _ => do
    let here ← Proc.ask fun number kernel => Kernel.pathOf (kernel.process number).directory
    printAll call (here ++ [0x0A]) 0

def timeUnit? (suffix : List Char) : Option Nat :=
  match suffix with
  | [] | ['s'] => some 1
  | ['m'] => some 60
  | ['h'] => some 3600
  | ['d'] => some 86400
  | _ => none

/-- How long a word says to wait, in nanoseconds. Nothing when it says for ever. -/
def span? (word : Bytes) : Option (Option Nat) :=
  match Floating.read? (Units.ofBytes word) with
  | none => none
  | some reading =>
      match reading.value, timeUnit? reading.behind with
      | .finite false size, some factor =>
          some (some (size.numerator * factor * 1000000000 / size.denominator))
      | .finite true size, some _ => if size.numerator = 0 then some (some 0) else none
      | .infinite false, some _ => some none
      | _, _ => none

def sleep : Program := fun call =>
  Options.withOptions call {} 1 fun _ words => do
    let wrong := words.filter fun word => (span? word).isNone
    match words, wrong with
    | [], _ => refuseText call 1 "missing operand"
    | _, [] =>
        let spans := words.filterMap span?
        if spans.any Option.isNone then Proc.hang
        else
          Proc.elapse ((spans.filterMap id).foldl (· + ·) 0)
          return 0
    | _, _ =>
        let told (word : Bytes) : Bytes :=
          Bytes.ofText "invalid time interval " ++ Quoting.word word
        let _ ← forEach (fun word => do complain call (told word); return 0) wrong.dropLast
        refuse call 1 (told (wrong.getLast?.getD []))

def environmentLines (ending : Bytes) (environment : List (Bytes × Bytes)) : Bytes :=
  environment.flatMap fun entry => entry.1 ++ 0x3D :: entry.2 ++ ending

def printVariables : Program := fun call =>
  let table : Options.Table :=
    { letters := [('0', .none)], names := [{ name := "null", letter := '0' }], inFront := true }
  Options.withOptions call table 2 fun given words => do
    let ending : Bytes := if Options.has '0' given then [0] else [0x0A]
    if words.isEmpty then printAll call (environmentLines ending call.environment) 0
    else
      let found := words.filterMap fun name => call.environment.lookup name
      printAll call (found.flatMap fun value => value ++ ending)
        (if found.length = words.length then 0 else 1)

def isAssignment (word : Bytes) : Bool :=
  word.contains 0x3D

def setVariable (environment : List (Bytes × Bytes)) (word : Bytes) : List (Bytes × Bytes) :=
  let (name, behind) := word.span (· != 0x3D)
  if (environment.lookup name).isSome then
    Kernel.alter environment name fun _ => behind.drop 1
  else environment ++ [(name, behind.drop 1)]

def withVariables (execute : Execute) : Program := fun call =>
  let table : Options.Table :=
    { letters := [('i', .none), ('0', .none), ('u', .required), ('C', .required), ('v', .none)]
      names := [{ name := "ignore-environment", letter := 'i' }, { name := "null", letter := '0' },
        { name := "unset", operand := .required, letter := 'u' },
        { name := "chdir", operand := .required, letter := 'C' },
        { name := "debug", letter := 'v' }]
      inFront := true }
  Options.withOptions call table 125 fun given words => do
    let (clears, rest) :=
      match words with
      | [0x2D] :: rest => (true, rest)
      | _ => (Options.has 'i' given, words)
    let removed := given.filterMap fun option =>
      if option.letter == 'u' then option.word else none
    let directory := Options.word? 'C' given
    let kept := if clears then [] else removed.foldl Kernel.dropKey call.environment
    let assignments := rest.takeWhile isAssignment
    let environment := assignments.foldl setVariable kept
    match rest.drop assignments.length with
    | [] =>
        let ending : Bytes := if Options.has '0' given then [0] else [0x0A]
        printOr 125 call (environmentLines ending environment) 0
    | name :: more =>
        let went ← Proc.attempt fun number kernel =>
          match directory with
          | some path => kernel.enter number path
          | none => .ok kernel
        match went with
        | .error error =>
            complain call (Bytes.ofText "cannot change directory to " ++
              Quoting.word (directory.getD []) ++ Bytes.ofText (": " ++ reason error))
            return 125
        | .ok _ =>
            let error ← executeNamed execute { words := name :: more, environment := environment }
            complain call (Quoting.word name ++ Bytes.ofText (": " ++ reason error))
            return if error = .noEntry then 127 else 126

end CompilerDriver.Machine.Program
