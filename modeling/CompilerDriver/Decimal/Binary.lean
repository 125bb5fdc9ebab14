/-!
Rounding of nonnegative fractions: to a whole number with halves going to the even neighbour, and to
the nearest number with fifty-three significant binary digits. Exponents are not bounded here, so
neither overflow nor gradual underflow occurs.
-/

namespace CompilerDriver.Decimal

structure Fraction where
  numerator : Nat
  denominator : Nat
  deriving Repr, DecidableEq

def Fraction.ofNat (value : Nat) : Fraction :=
  ⟨value, 1⟩

def Fraction.add (left right : Fraction) : Fraction :=
  ⟨left.numerator * right.denominator + right.numerator * left.denominator,
    left.denominator * right.denominator⟩

/-- The nearest whole number; of two equally near ones, the even one. -/
def Fraction.roundEven (value : Fraction) : Nat :=
  let below := value.numerator / value.denominator
  let excess := 2 * (value.numerator % value.denominator)
  if excess < value.denominator then below
  else if value.denominator < excess then below + 1
  else below + below % 2

def powerOfTwo (exponent : Nat) : Nat :=
  Nat.pow 2 exponent

def Fraction.scale (value : Fraction) : Int → Fraction
  | .ofNat up => ⟨value.numerator * powerOfTwo up, value.denominator⟩
  | .negSucc down => ⟨value.numerator, value.denominator * powerOfTwo (down + 1)⟩

def Fraction.magnitude (value : Fraction) : Int :=
  let guess : Int := (Nat.log2 value.numerator : Int) - Nat.log2 value.denominator
  let reached := value.scale (-guess)
  if reached.denominator ≤ reached.numerator then guess else guess - 1

/-- The nearest value with fifty-three significant binary digits. -/
def Fraction.toBinary (value : Fraction) : Fraction :=
  if value.numerator = 0 then value
  else
    let shift := 52 - value.magnitude
    (Fraction.ofNat (value.scale shift).roundEven).scale (-shift)

/-- One decimal, with exact halves going to the even tenth. -/
def Fraction.oneDecimal (value : Fraction) : String :=
  let tenths := Fraction.roundEven ⟨value.numerator * 10, value.denominator⟩
  toString (tenths / 10) ++ "." ++ toString (tenths % 10)

end CompilerDriver.Decimal
