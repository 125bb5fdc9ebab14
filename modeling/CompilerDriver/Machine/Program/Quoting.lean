import CompilerDriver.Path

/-!
Names and words as messages show them. A name is shown the way a shell would take it back; a word is
shown between single quotes, with escapes. Bytes that cannot be printed are given by their codes.
-/

namespace CompilerDriver.Machine.Program.Quoting

def quote : UInt8 := 0x27

def backslash : UInt8 := 0x5C

def isPrintable (byte : UInt8) : Bool :=
  0x20 ≤ byte && byte ≤ 0x7E

def controlLetters : List (UInt8 × Char) :=
  [(0x07, 'a'), (0x08, 'b'), (0x09, 't'), (0x0A, 'n'), (0x0B, 'v'), (0x0C, 'f'), (0x0D, 'r')]

def escaped (byte : UInt8) : Bytes :=
  match controlLetters.lookup byte with
  | some letter => [backslash, UInt8.ofNat letter.toNat]
  | none =>
      let digit (value : Nat) : UInt8 := UInt8.ofNat (0x30 + value % 8)
      [backslash, digit (byte.toNat / 64), digit (byte.toNat / 8), digit byte.toNat]

def isIn (text : String) (byte : UInt8) : Bool :=
  byte < 0x80 && text.contains (Char.ofNat byte.toNat)

def isWordByte (byte : UInt8) : Bool :=
  byte < 0x80 && (Char.ofNat byte.toNat).isAlphanum || isIn "%+,-./]_" byte

def word (bytes : Bytes) : Bytes :=
  let shown (byte : UInt8) : Bytes :=
    if byte = quote || byte = backslash then [backslash, byte]
    else if isPrintable byte then [byte]
    else escaped byte
  quote :: bytes.flatMap shown ++ [quote]

def isHarmless (isFirst : Bool) (byte : UInt8) : Bool :=
  isWordByte byte || byte = 0x40 || !isFirst && isIn "~#" byte || isIn "\x7b\x7d" byte

def isBare : Bytes → Bool
  | [] => false
  | [byte] => isHarmless true byte && !isIn "\x7b\x7d" byte
  | first :: rest => isHarmless true first && rest.all (isHarmless false)

def isDoubleQuotable (isFirst : Bool) (byte : UInt8) : Bool :=
  isWordByte byte || isIn " :'" byte || isFirst && isIn "~#" byte

/-- A name with single quotes in it, but nothing that means more between double ones. -/
def takesDoubleQuotes : Bytes → Bool
  | [] => false
  | first :: rest =>
      (first :: rest).contains quote && isDoubleQuotable true first &&
        rest.all (isDoubleQuotable false)

/-- The inside of a quoted name, whose unprintable bytes stand in quotes of another kind. -/
def inside : (isEscaping : Bool) → Bytes → Bytes
  | _, [] => []
  | isEscaping, byte :: rest =>
      if byte = quote then [quote, backslash, quote, quote] ++ inside false rest
      else if isPrintable byte then
        (if isEscaping then [quote, quote] else []) ++ byte :: inside false rest
      else
        (if isEscaping then [] else [quote, 0x24, quote]) ++ escaped byte ++ inside true rest

def name (bytes : Bytes) : Bytes :=
  if takesDoubleQuotes bytes then 0x22 :: bytes ++ [0x22]
  else quote :: inside false bytes ++ [quote]

def nameIfNeeded (bytes : Bytes) : Bytes :=
  if isBare bytes then bytes else name bytes

end CompilerDriver.Machine.Program.Quoting
