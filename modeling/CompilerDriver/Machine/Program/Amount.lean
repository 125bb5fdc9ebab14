import CompilerDriver.Machine.Program.Input

/-!
Amounts of lines or bytes as words give them: digits, and perhaps a letter for a power of a
thousand.
-/

namespace CompilerDriver.Machine.Program.Amount

def powerLetters : List Char :=
  ['K', 'M', 'G', 'T', 'P', 'E', 'Z', 'Y', 'R', 'Q']

def power? (letter : Char) : Option Nat :=
  let large := if letter == 'k' || letter == 'm' then letter.toUpper else letter
  (powerLetters.findIdx? (· == large)).map (· + 1)

def factor? : List Char → Option Nat
  | [] => some 1
  | ['b'] => some 512
  | letter :: rest =>
      match power? letter, rest with
      | some power, [] | some power, ['i', 'B'] => some (Nat.pow 1024 power)
      | some power, ['B'] => some (Nat.pow 1000 power)
      | _, _ => none

def isDigit (byte : UInt8) : Bool :=
  0x30 ≤ byte && byte ≤ 0x39

def digitsValue (digits : Bytes) : Nat :=
  digits.foldl (fun value byte => 10 * value + (byte.toNat - 0x30)) 0

/-- An amount, which may have a plus sign in front. A letter alone stands for one of its kind. -/
def read? (word : Bytes) : Option Nat :=
  let unsigned :=
    match word.dropWhile (· == 0x20) with
    | 0x2B :: rest => rest
    | rest => rest
  let (digits, suffix) := unsigned.span isDigit
  let letters := suffix.map fun byte => Char.ofNat byte.toNat
  if digits.isEmpty && suffix.isEmpty then none
  else (factor? letters).map fun factor =>
    (if digits.isEmpty then 1 else digitsValue digits) * factor

end CompilerDriver.Machine.Program.Amount
