import CompilerDriver.Machine.Program.Amount
import CompilerDriver.Machine.Shell.Format

/-!
Numbers in a row, from one number to another in equal steps. Numbers are whole numbers of the
smallest decimal unit that any of them needs, so that no step is rounded.
-/

namespace CompilerDriver.Machine.Program.Sequence

open Kernel (Proc)

/-- A decimal number: so many units, each of which has so many places behind the point. -/
structure Operand where
  units : Int
  places : Nat
  /-- How wide the number was written. -/
  width : Nat
  deriving Inhabited

def power (exponent : Nat) : Int :=
  (Nat.pow 10 exponent : Nat)

def operand? (word : Bytes) : Option Operand :=
  let shown := word.dropWhile fun byte => byte == 0x20 || byte == 0x2B
  let (negative, digits) :=
    match shown with
    | 0x2D :: rest => (true, rest)
    | rest => (false, rest)
  let (whole, behind) := digits.span Amount.isDigit
  let (fraction, after) :=
    match behind with
    | 0x2E :: rest => rest.span Amount.isDigit
    | rest => ([], rest)
  let exponent? : Option Int :=
    match after with
    | [] => some 0
    | letter :: rest =>
        let (isDown, size) :=
          match rest with
          | 0x2D :: size => (true, size)
          | 0x2B :: size => (false, size)
          | size => (false, size)
        if (letter == 0x65 || letter == 0x45) && !size.isEmpty && size.all Amount.isDigit then
          let value : Int := Amount.digitsValue size
          some (if isDown then -value else value)
        else none
  if whole.isEmpty && fraction.isEmpty then none
  else
    exponent?.map fun exponent =>
      let size : Int := Amount.digitsValue (whole ++ fraction)
      let places := ((fraction.length : Int) - exponent).toNat
      let units := size * power (exponent + (places : Int) - (fraction.length : Int)).toNat
      { units := if negative then -units else units, places := places, width := shown.length }

def Operand.scaled (operand : Operand) (places : Nat) : Int :=
  operand.units * power (places - operand.places)

structure Look where
  places : Nat
  /-- The least width, filled with zeros. -/
  width : Nat := 0
  template : Option (List Char) := none

def digitsOf (value : Nat) : List Char :=
  Nat.toDigits 10 value

def fixed (places : Nat) (units : Int) : List Char :=
  let digits := digitsOf units.natAbs
  let padded := List.replicate (places + 1 - digits.length) '0' ++ digits
  let whole := padded.take (padded.length - places)
  let fraction := padded.drop (padded.length - places)
  (if units < 0 then ['-'] else []) ++ whole ++ if places = 0 then [] else '.' :: fraction

def filled (width : Nat) (text : List Char) : List Char :=
  let zeros := List.replicate (width - text.length) '0'
  match text with
  | '-' :: digits => '-' :: zeros ++ digits
  | digits => zeros ++ digits

def Look.show (look : Look) (units : Int) : Bytes :=
  let plain := fixed look.places units
  match look.template with
  | some template => Shell.Units.toBytes (Shell.Format.format template [plain]).units
  | none => Shell.Units.toBytes (filled look.width plain)

def commonWidth (first step last : Operand) : Nat :=
  let places := max first.places step.places
  let point (operand : Operand) : Int :=
    if operand.places = 0 && places != 0 then 1
    else if operand.places != 0 && places = 0 then -1
    else 0
  let width (operand : Operand) : Int :=
    operand.width + places - operand.places + point operand
  (max (width first) (width last)).toNat

def isConversion (letter : Char) : Bool :=
  ['e', 'f', 'g', 'a', 'E', 'F', 'G', 'A'].contains letter

def check (word : Bytes) : (steps : Nat) → List Char → Except Bytes Unit
  | 0, _ => .ok ()
  | steps + 1, text =>
      let complaint (words : String) : Except Bytes Unit :=
        .error (Bytes.ofText "format " ++ Quoting.word word ++ Bytes.ofText words)
      match text with
      | [] => complaint " has no % directive"
      | '%' :: '%' :: rest => check word steps rest
      | '%' :: rest =>
          let behind := rest.dropWhile fun char => "-+#0 '.".toList.contains char || char.isDigit
          match behind with
          | [] => complaint " ends in %"
          | letter :: after =>
              if isConversion letter then
                if placeIn after then complaint " has too many % directives" else .ok ()
              else complaint (" has unknown %" ++ String.singleton letter ++ " directive")
      | _ :: rest => check word steps rest
where
  /-- Whether there is another place. -/
  placeIn : List Char → Bool
    | '%' :: '%' :: rest => placeIn rest
    | '%' :: _ => true
    | _ :: rest => placeIn rest
    | [] => false

def block (look : Look) (separator : Bytes) (step : Int) (isFirst : Bool) :
    (count : Nat) → Int → Bytes
  | 0, _ => []
  | count + 1, units =>
      (if isFirst then [] else separator) ++ look.show units ++
        block look separator step false count (units + step)

def blockSize : Nat := 500

def writeFrom (call : Call) (look : Look) (separator : Bytes) (step : Int) :
    (steps : Nat) → (isFirst : Bool) → (count : Nat) → Int → Proc Nat
  | 0, _, _, _ => return 0
  | steps + 1, isFirst, count, units => do
      if count = 0 then printAll call [0x0A] 0
      else
        let size := min count blockSize
        match ← Proc.write 1 (block look separator step isFirst size units) with
        | .error error =>
            complain call (Bytes.ofText ("write error: " ++ reason error))
            return 1
        | .ok _ =>
            writeFrom call look separator step steps false (count - size) (units + step * size)

def countUpTo (first step last : Int) : Nat :=
  if 0 < step then if last < first then 0 else ((last - first) / step).toNat + 1
  else if first < last then 0
  else ((first - last) / (-step)).toNat + 1

def table : Options.Table :=
  { letters := [('f', .required), ('s', .required), ('w', .none)]
    names := [{ name := "format", operand := .required, letter := 'f' },
      { name := "separator", operand := .required, letter := 's' },
      { name := "equal-width", letter := 'w' }]
    inFront := true
    isOperand := fun word => (word.drop 1).head?.any fun byte =>
      byte == 0x2E || Amount.isDigit byte }

def one : Operand := { units := 1, places := 0, width := 1 }

def run (call : Call) (given : List Options.Given) (first step last : Operand) : Proc Nat := do
  let template := Options.word? 'f' given
  let isWide := Options.has 'w' given
  let places := max first.places step.places
  let deep := max places last.places
  let unit := power (deep - places)
  let look : Look :=
    { places := places
      width := if isWide then commonWidth first step last else 0
      template := template.map Shell.Units.ofBytes }
  let separator := (Options.word? 's' given).getD [0x0A]
  let start := first.scaled places
  let count := countUpTo (start * unit) (step.scaled places * unit) (last.scaled deep)
  if count = 0 then return 0
  else writeFrom call look separator (step.scaled places) (count + 1) true count start

def program : Program := fun call =>
  Options.withOptions call table 1 fun given words => do
    let wrong := words.find? fun word => (operand? word).isNone
    match words, wrong, (Options.word? 'f' given).map fun word =>
        check word (word.length + 1) (Shell.Units.ofBytes word) with
    | [], _, _ => refuseText call 1 "missing operand"
    | _ :: _ :: _ :: extra :: _, _, _ =>
        refuse call 1 (Bytes.ofText "extra operand " ++ Quoting.word extra)
    | _, _, some (.error message) =>
        complain call message
        return 1
    | _, some word, _ =>
        refuse call 1 (Bytes.ofText "invalid floating point argument: " ++ Quoting.word word)
    | _, none, _ =>
        if Options.has 'w' given && (Options.word? 'f' given).isSome then
          refuseText call 1
            "format string may not be specified when printing equal width strings"
        else
          match words, words.filterMap operand? with
          | _, [last] => run call given one one last
          | _, [first, last] => run call given first one last
          | _ :: word :: _, [first, step, last] =>
              if step.units = 0 then
                refuse call 1
                  (Bytes.ofText "invalid Zero increment value: " ++ Quoting.word word)
              else run call given first step last
          | _, _ => return 0

end CompilerDriver.Machine.Program.Sequence
