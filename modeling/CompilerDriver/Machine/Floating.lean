import CompilerDriver.Decimal.Binary

/-!
Numbers with a floating point of sixty-four bits: read from text, rounded, and written out in the
four usual forms. A number is kept as a sign and an exact fraction, so that every digit that is
written is the right one.
-/

namespace CompilerDriver.Machine

open Decimal (Fraction)

inductive Floating where
  | finite (negative : Bool) (size : Fraction)
  | infinite (negative : Bool)
  | undefined (negative : Bool)
  deriving Repr, DecidableEq

namespace Floating

def ofNat (value : Nat) : Floating :=
  .finite false (.ofNat value)

instance : Inhabited Floating := ⟨ofNat 0⟩

/-- The exponents of the least and of the greatest number that has all its digits. -/
def leastExponent : Int := -1022

def greatestExponent : Int := 1023

def rounded (negative : Bool) (size : Fraction) : Floating × Bool :=
  if size.numerator = 0 then (.finite negative (.ofNat 0), false)
  else
    let magnitude := size.magnitude
    let shift := 52 - max magnitude leastExponent
    let scaled := size.scale shift
    let digits := scaled.roundEven
    let isExact := digits * scaled.denominator = scaled.numerator
    let result := (Fraction.ofNat digits).scale (-shift)
    if 0 < digits && greatestExponent < result.magnitude then (.infinite negative, true)
    else (.finite negative result, magnitude < leastExponent && !isExact)

structure Reading where
  value : Floating
  behind : List Char
  outOfRange : Bool := false

def digitValue (char : Char) : Nat :=
  if char.isDigit then char.toNat - '0'.toNat else char.toLower.toNat - 'a'.toNat + 10

def inBase (base : Nat) (digits : List Char) : Nat :=
  digits.foldl (fun total digit => total * base + digitValue digit) 0

def isHexadecimal (char : Char) : Bool :=
  char.isDigit || ('a' ≤ char.toLower && char.toLower ≤ 'f')

def signed (text : List Char) : Bool × List Char :=
  match text with
  | '-' :: rest => (true, rest)
  | '+' :: rest => (false, rest)
  | _ => (false, text)

/-- An exponent behind its letter; without digits there is none. -/
def exponent (letter : Char) (text : List Char) : Int × List Char :=
  match text with
  | char :: rest =>
      if char.toLower = letter then
        let (negative, start) := signed rest
        let (digits, behind) := start.span Char.isDigit
        if digits.isEmpty then (0, text)
        else
          let size : Int := inBase 10 digits
          (if negative then -size else size, behind)
      else (0, text)
  | [] => (0, text)

def digitLimit : Nat := 5000

/-- Digits in a base, times a power. Where the power alone decides, it is not worked out. -/
def ofDigits (negative : Bool) (base power : Nat) (digits : List Char) (shift : Int) :
    Floating × Bool :=
  let value := inBase base digits
  if value = 0 then (.finite negative (.ofNat 0), false)
  else if (digitLimit + 4 * digits.length : Int) < shift then (.infinite negative, true)
  else if shift < -(digitLimit + 4 * digits.length : Int) then
    (.finite negative (.ofNat 0), true)
  else
    rounded negative <|
      match shift with
      | .ofNat up => ⟨value * Nat.pow power up, 1⟩
      | .negSucc down => ⟨value, Nat.pow power (down + 1)⟩

def mantissa (isDigit : Char → Bool) (text : List Char) : List Char × List Char × List Char :=
  let (whole, behind) := text.span isDigit
  match behind with
  | '.' :: rest =>
      let (fraction, left) := rest.span isDigit
      if whole.isEmpty && fraction.isEmpty then ([], [], text) else (whole, fraction, left)
  | _ => (whole, [], behind)

def readSize? (negative : Bool) (text : List Char) : Option Reading :=
  let hexadecimal : Option Reading :=
    match text with
    | '0' :: mark :: rest =>
        if mark.toLower = 'x' then
          let (whole, fraction, left) := mantissa isHexadecimal rest
          if whole.isEmpty && fraction.isEmpty then none
          else
            let (power, behind) := exponent 'p' left
            let (value, outOfRange) :=
              ofDigits negative 16 2 (whole ++ fraction) (power - 4 * fraction.length)
            some { value := value, behind := behind, outOfRange := outOfRange }
        else none
    | _ => none
  match hexadecimal with
  | some reading => some reading
  | none =>
      let (whole, fraction, left) := mantissa Char.isDigit text
      if whole.isEmpty && fraction.isEmpty then none
      else
        let (power, behind) := exponent 'e' left
        let (value, outOfRange) :=
          ofDigits negative 10 10 (whole ++ fraction) (power - fraction.length)
        some { value := value, behind := behind, outOfRange := outOfRange }

def startsWith (word : String) (text : List Char) : Bool :=
  (text.take word.length).map Char.toLower == word.toList

def behindRemark (text : List Char) : List Char :=
  match text with
  | '(' :: rest =>
      match rest.dropWhile fun char => char.isAlphanum || char == '_' with
      | ')' :: behind => behind
      | _ => text
  | _ => text

def read? (text : List Char) : Option Reading :=
  let (negative, start) := signed text
  if startsWith "infinity" start then some { value := .infinite negative, behind := start.drop 8 }
  else if startsWith "inf" start then some { value := .infinite negative, behind := start.drop 3 }
  else if startsWith "nan" start then
    some { value := .undefined negative, behind := behindRemark (start.drop 3) }
  else readSize? negative start

def isNegative : Floating → Bool
  | .finite negative _ | .infinite negative | .undefined negative => negative

def digitsOf (value : Nat) : List Char :=
  Nat.toDigits 10 value

def point (alternate : Bool) (fraction : List Char) : List Char :=
  if fraction.isEmpty && !alternate then [] else '.' :: fraction

def scaleTen (size : Fraction) : Int → Fraction
  | .ofNat up => ⟨size.numerator * Nat.pow 10 up, size.denominator⟩
  | .negSucc down => ⟨size.numerator, size.denominator * Nat.pow 10 (down + 1)⟩

def fixed (alternate : Bool) (precision : Nat) (size : Fraction) : List Char :=
  let digits := digitsOf (scaleTen size precision).roundEven
  let wide := List.replicate (precision + 1 - digits.length) '0' ++ digits
  wide.take (wide.length - precision) ++ point alternate (wide.drop (wide.length - precision))

def magnitudeTen (size : Fraction) : Int :=
  let guess : Int :=
    ((digitsOf size.numerator).length : Int) - (digitsOf size.denominator).length
  let reached := scaleTen size (-guess)
  if reached.denominator ≤ reached.numerator then guess else guess - 1

/-- The digits in front of and behind the point, and the power of ten to take them times. -/
def scientificDigits (precision : Nat) (size : Fraction) : List Char × Int :=
  if size.numerator = 0 then (List.replicate (precision + 1) '0', 0)
  else
    let power := magnitudeTen size
    let digits := digitsOf (scaleTen size (precision - power)).roundEven
    if digits.length = precision + 1 then (digits, power)
    else (digits.take (precision + 1), power + 1)

def signOf (power : Int) : Char :=
  if power < 0 then '-' else '+'

def powerText (power : Int) : List Char :=
  let digits := digitsOf power.natAbs
  'e' :: signOf power :: (if digits.length < 2 then '0' :: digits else digits)

def scientific (alternate : Bool) (precision : Nat) (size : Fraction) : List Char :=
  let (digits, power) := scientificDigits precision size
  digits.take 1 ++ point alternate (digits.drop 1) ++ powerText power

def withoutZeros (digits : List Char) : List Char :=
  (digits.reverse.dropWhile (· == '0')).reverse

/-- So many digits in all, with a power of ten only where it saves many zeros. Zeros at the end of
the fraction are left out. -/
def general (alternate : Bool) (precision : Nat) (size : Fraction) : List Char :=
  let count := max precision 1
  let (digits, power) := scientificDigits (count - 1) size
  let shown (digits : List Char) : List Char := if alternate then digits else withoutZeros digits
  if power < -4 || (count : Int) ≤ power then
    digits.take 1 ++ point alternate (shown (digits.drop 1)) ++ powerText power
  else
    match power with
    | .ofNat whole =>
        digits.take (whole + 1) ++ point alternate (shown (digits.drop (whole + 1)))
    | .negSucc zeros => '0' :: point alternate (shown (List.replicate zeros '0' ++ digits))

def hexadecimalDigits (width value : Nat) : List Char :=
  let digits := Nat.toDigits 16 value
  List.replicate (width - digits.length) '0' ++ digits

def hexadecimal (alternate : Bool) (precision : Option Nat) (size : Fraction) : List Char :=
  let power : Int := if size.numerator = 0 then 0 else max size.magnitude leastExponent
  let bits := size.scale (52 - power)
  let (whole, fraction) :=
    match precision with
    | none =>
        let value := bits.roundEven
        let width := 13
        (value / Nat.pow 16 width,
          withoutZeros (hexadecimalDigits width (value % Nat.pow 16 width)))
    | some count =>
        let kept := min count 13
        let value := Fraction.roundEven ⟨bits.numerator, bits.denominator * Nat.pow 16 (13 - kept)⟩
        (value / Nat.pow 16 kept,
          if kept = 0 then []
          else hexadecimalDigits kept (value % Nat.pow 16 kept) ++
            List.replicate (count - kept) '0')
  '0' :: 'x' :: digitsOf whole ++ point alternate fraction ++
    ['p', signOf power] ++ digitsOf power.natAbs

end CompilerDriver.Machine.Floating
