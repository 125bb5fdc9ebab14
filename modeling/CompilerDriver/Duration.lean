import CompilerDriver.Decimal.Binary
import CompilerDriver.Json

/-!
Spans of time in whole nanoseconds, and their three written forms: seconds with one decimal, as
messages show them, the shortest exact form with a unit, as log records show them, and the document
form, which keeps seconds and nanoseconds apart.
-/

namespace CompilerDriver

structure Duration where
  nanoseconds : Nat
  deriving Repr, DecidableEq, Inhabited

namespace Duration

def second : Nat := 1000000000

def ofParts (seconds nanoseconds : Nat) : Duration :=
  ⟨seconds * second + nanoseconds⟩

def ofSeconds (seconds : Nat) : Duration :=
  ofParts seconds 0

def seconds (duration : Duration) : Nat :=
  duration.nanoseconds / second

def remainder (duration : Duration) : Nat :=
  duration.nanoseconds % second

/-- Seconds and nanoseconds are each brought to binary precision before they are added, and the sum
once more. -/
def binarySeconds (duration : Duration) : Decimal.Fraction :=
  let whole := (Decimal.Fraction.ofNat duration.seconds).toBinary
  let part := (Decimal.Fraction.mk duration.remainder second).toBinary
  (whole.add part).toBinary

def secondsText (duration : Duration) : String :=
  duration.binarySeconds.oneDecimal

/-- The digits after the point, `places` in all, without the zeros at the end. -/
def fractionChars (value places : Nat) : List Char :=
  let digits := Nat.toDigits 10 value
  let padded := List.replicate (places - digits.length) '0' ++ digits
  (padded.reverse.dropWhile (· == '0')).reverse

def withUnit (whole part places : Nat) (unit : String) : String :=
  let fraction := fractionChars part places
  let point := if fraction.isEmpty then [] else '.' :: fraction
  String.ofList (Nat.toDigits 10 whole ++ point) ++ unit

def exactText (duration : Duration) : String :=
  let part := duration.remainder
  if 0 < duration.seconds then withUnit duration.seconds part 9 "s"
  else if 1000000 ≤ part then withUnit (part / 1000000) (part % 1000000) 6 "ms"
  else if 1000 ≤ part then withUnit (part / 1000) (part % 1000) 3 "µs"
  else withUnit part 0 0 "ns"

def toJson (duration : Duration) : Json :=
  .object [("secs", .number duration.seconds), ("nanos", .number duration.remainder)]

end CompilerDriver.Duration
