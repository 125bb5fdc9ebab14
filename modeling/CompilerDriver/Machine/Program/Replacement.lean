import CompilerDriver.Machine.Floating
import CompilerDriver.Machine.Program.Portion

/-!
Replacing, deleting and squeezing single bytes of a text. Sets of bytes are spelled out, with
ranges, classes and repetitions.
-/

namespace CompilerDriver.Machine.Program.Replacement

open Kernel (Proc)

/-- A byte of a set as it is written. What stood behind a backslash means only itself. -/
structure Unit where
  byte : UInt8
  isEscaped : Bool := false
  deriving DecidableEq, Inhabited

def isOctal (byte : UInt8) : Bool :=
  0x30 ≤ byte && byte ≤ 0x37

def unescape : (steps : Nat) → Bytes → List Unit
  | 0, _ | _, [] => []
  | steps + 1, byte :: rest =>
      if byte != 0x5C then { byte := byte } :: unescape steps rest
      else
        match rest with
        | [] => [{ byte := 0x5C }]
        | letter :: behind =>
            let digits := (rest.take 3).takeWhile isOctal
            if !digits.isEmpty then
              let value (digits : Bytes) : Nat :=
                digits.foldl (fun value digit => 8 * value + (digit.toNat - 0x30)) 0
              let used := if value digits < 256 then digits else digits.take 2
              { byte := UInt8.ofNat (value used), isEscaped := true } ::
                unescape steps (rest.drop used.length)
            else
              let meaning :=
                (Quoting.controlLetters.find? fun entry =>
                  entry.2.toNat = letter.toNat).map Prod.fst
              { byte := meaning.getD letter, isEscaped := true } :: unescape steps behind

/-- A part of a set: some bytes, or one byte a number of times. A count of zero fills up what is
missing. -/
inductive Part where
  | bytes (bytes : Bytes)
  | times (byte : UInt8) (count : Nat)

def span (first last : UInt8) : Bytes :=
  (List.range (last.toNat + 1 - first.toNat)).map fun offset => UInt8.ofNat (first.toNat + offset)

def allBytes : Bytes :=
  (List.range 256).map UInt8.ofNat

def classTest? (name : String) : Option (UInt8 → Bool) :=
  let char (byte : UInt8) : Char := Char.ofNat byte.toNat
  let isAscii (byte : UInt8) : Bool := byte < 0x80
  match name with
  | "alnum" => some fun byte => isAscii byte && (char byte).isAlphanum
  | "alpha" => some fun byte => isAscii byte && (char byte).isAlpha
  | "blank" => some fun byte => byte = 0x20 || byte = 0x09
  | "cntrl" => some fun byte => byte < 0x20 || byte = 0x7F
  | "digit" => some fun byte => (char byte).isDigit
  | "graph" => some fun byte => 0x20 < byte && byte < 0x7F
  | "lower" => some fun byte => isAscii byte && (char byte).isLower
  | "print" => some fun byte => 0x20 ≤ byte && byte < 0x7F
  | "punct" => some fun byte => 0x20 < byte && byte < 0x7F && !(char byte).isAlphanum
  | "space" => some fun byte => byte = 0x20 || 0x09 ≤ byte && byte ≤ 0x0D
  | "upper" => some fun byte => isAscii byte && (char byte).isUpper
  | "xdigit" => some fun byte => Floating.isHexadecimal (char byte)
  | _ => none

def plain (text : String) : List Unit :=
  (Bytes.ofText text).map fun byte => { byte := byte }

/-- What stands between an opening mark and the first closing one, and what comes behind. -/
def between? (close : List Unit) : List Unit → Option (List Unit × List Unit)
  | [] => none
  | unit :: rest =>
      if close.isPrefixOf (unit :: rest) then some ([], (unit :: rest).drop close.length)
      else (between? close rest).map fun (inside, behind) => (unit :: inside, behind)

def count? (digits : Bytes) : Option Nat :=
  if digits.head? = some 0x30 then
    if digits.all isOctal then
      some (digits.foldl (fun value digit => 8 * value + (digit.toNat - 0x30)) 0)
    else none
  else if digits.all Amount.isDigit then some (Amount.digitsValue digits)
  else none

def construct? (text : List Unit) : Option (Except Bytes (Part × List Unit)) :=
  let bytesOf (units : List Unit) : Bytes := units.map Unit.byte
  if (plain "[:").isPrefixOf text then
    (between? (plain ":]") (text.drop 2)).map fun (inside, behind) =>
      match classTest? (shown (bytesOf inside)) with
      | some test => .ok (.bytes (allBytes.filter test), behind)
      | none => .error (Bytes.ofText "invalid character class " ++ Quoting.word (bytesOf inside))
  else if (plain "[=").isPrefixOf text then
    (between? (plain "=]") (text.drop 2)).map fun (inside, behind) =>
      match inside with
      | [unit] => .ok (.bytes [unit.byte], behind)
      | _ =>
          .error (bytesOf inside ++
            Bytes.ofText ": equivalence class operand must be a single character")
  else
    match text with
    | { byte := 0x5B, isEscaped := false } :: unit ::
        { byte := 0x2A, isEscaped := false } :: rest =>
        (between? (plain "]") rest).bind fun (inside, behind) =>
          if inside.any Unit.isEscaped then none
          else
            match count? (bytesOf inside) with
            | some count => some (.ok (.times unit.byte count, behind))
            | none =>
                if inside.all fun unit => Amount.isDigit unit.byte then
                  some (.error (Bytes.ofText "invalid repeat count " ++
                    Quoting.word (bytesOf inside) ++ Bytes.ofText " in [c*n] construct"))
                else none
    | _ => none

def partsOf : (steps : Nat) → List Unit → Except Bytes (List Part)
  | 0, _ | _, [] => .ok []
  | steps + 1, unit :: rest =>
      match construct? (unit :: rest) with
      | some (.ok (part, behind)) => (partsOf steps behind).map (part :: ·)
      | some (.error message) => .error message
      | none =>
          match rest with
          | { byte := 0x2D, isEscaped := false } :: last :: behind =>
              if last.byte < unit.byte then
                let ends := unit.byte :: 0x2D :: [last.byte]
                .error (Bytes.ofText "range-endpoints of " ++ Quoting.word ends ++
                  Bytes.ofText " are in reverse collating sequence order")
              else (partsOf steps behind).map (.bytes (span unit.byte last.byte) :: ·)
          | _ => (partsOf steps rest).map (.bytes [unit.byte] :: ·)

def parse (word : Bytes) : Except Bytes (List Part) :=
  partsOf (word.length + 1) (unescape (word.length + 1) word)

def Part.length : Part → Nat
  | .bytes content => content.length
  | .times _ count => count

/-- All bytes of a set in order. A part that fills up makes it as long as another set. -/
def spell (wanted : Nat) (parts : List Part) : Bytes :=
  let fixed := (parts.map Part.length).foldl (· + ·) 0
  parts.flatMap fun part =>
    match part with
    | .bytes bytes => bytes
    | .times byte count => List.replicate (if count = 0 then wanted - fixed else count) byte

def hasFiller (parts : List Part) : Bool :=
  parts.any fun part =>
    match part with
    | .times .. => true
    | _ => false

/-- What becomes of each byte, and which bytes are written only once in a row. -/
structure Rule where
  replaces : UInt8 → Option UInt8
  squeezes : UInt8 → Bool

/-- Replaces the bytes of one set by those of another one, whose last byte stands for all that are
missing. -/
def pairs (first second : Bytes) : UInt8 → Option UInt8 :=
  let padded :=
    second ++ List.replicate (first.length - second.length) (second.getLast?.getD 0)
  let table := (first.zip padded).reverse
  fun byte => some ((table.lookup byte).getD byte)

def Rule.apply (rule : Rule) (last : Option UInt8) (piece : Bytes) : Option UInt8 × Bytes :=
  let step (state : Option UInt8 × Bytes) (byte : UInt8) : Option UInt8 × Bytes :=
    match rule.replaces byte with
    | none => state
    | some other =>
        if rule.squeezes other && state.1 == some other then state
        else (some other, other :: state.2)
  let (last, output) := piece.foldl step (last, [])
  (last, output.reverse)

structure Request where
  complements : Bool
  deletes : Bool
  squeezes : Bool
  truncates : Bool

def complementOf (set : Bytes) : Bytes :=
  allBytes.filter fun byte => !set.contains byte

def ruleOf (request : Request) (first : List Part) (second : Option (List Part)) :
    Except String Rule :=
  let spelled := spell 0 first
  let source := if request.complements then complementOf spelled else spelled
  if hasFiller first then .error "the [c*] repeat construct may not appear in string1"
  else
    match second with
    | none =>
        if request.deletes then
          .ok { replaces := fun byte => if source.contains byte then none else some byte
                squeezes := fun _ => false }
        else .ok { replaces := some, squeezes := source.contains }
    | some parts =>
        let target := spell source.length parts
        if request.deletes then
          .ok { replaces := fun byte => if source.contains byte then none else some byte
                squeezes := target.contains }
        else if target.isEmpty && !source.isEmpty && !request.truncates then
          .error "when not truncating set1, string2 must be non-empty"
        else
          let shortened := if request.truncates then source.take target.length else source
          .ok { replaces := pairs shortened target
                squeezes := fun byte => request.squeezes && target.contains byte }

def refuseWith (call : Call) (lines : List Bytes) : Proc Nat :=
  refuse call 1 (Path.joinWith 0x0A lines)

def run (call : Call) (rule : Rule) : Proc Nat := do
  let (_, ending) ← Input.stream 0 none fun last piece =>
    let (next, output) := rule.apply last piece
    { state := next, output := output }
  match ending with
  | .done => return 0
  | .unread error =>
      complainOf call (Bytes.ofText "read error") error
      return 1
  | .unwritten error =>
      complainText call ("write error: " ++ reason error)
      return 1

def table : Options.Table :=
  { letters := Options.plain "cCdst"
    names := [{ name := "complement", letter := 'c' }, { name := "delete", letter := 'd' },
      { name := "squeeze-repeats", letter := 's' }, { name := "truncate-set1", letter := 't' }]
    inFront := true }

def program : Program := fun call =>
  Options.withOptions call table 1 fun given words => do
    let request : Request :=
      { complements := Options.has 'c' given || Options.has 'C' given
        deletes := Options.has 'd' given, squeezes := Options.has 's' given
        truncates := Options.has 't' given }
    let least := if request.deletes == request.squeezes then 2 else 1
    let most := if request.deletes && !request.squeezes then 1 else 2
    let why (needs : Bool) : List Bytes :=
      if needs then
        [Bytes.ofText
          (if request.squeezes then
            "Two strings must be given when both deleting and squeezing repeats."
          else "Two strings must be given when translating.")]
      else []
    match words with
    | [] => refuseText call 1 "missing operand"
    | first :: rest =>
        if words.length < least then
          refuseWith call
            ((Bytes.ofText "missing operand after " ++ Quoting.word first) :: why true)
        else if most < words.length then
          let extra := (words.drop most).headD []
          let only : List Bytes :=
            if most = 1 && words.length = 2 then
              [Bytes.ofText "Only one string may be given when deleting without squeezing repeats."]
            else []
          refuseWith call ((Bytes.ofText "extra operand " ++ Quoting.word extra) :: only)
        else
          let parsed : Except Bytes (List Part × Option (List Part)) := do
            let source ← parse first
            let target ← rest.head?.mapM parse
            return (source, target)
          match parsed with
          | .error message =>
              complain call message
              return 1
          | .ok (source, target) =>
              match ruleOf request source target with
              | .error message =>
                  complainText call message
                  return 1
              | .ok rule => run call rule

end CompilerDriver.Machine.Program.Replacement
