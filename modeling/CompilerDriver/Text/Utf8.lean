/-!
Text as bytes. Names and process output are byte strings and need not be text; text is written in
UTF-8. The lossy reading shows U+FFFD once for each longest run that could have begun a character
and was broken off, and once for every byte that can begin none. A byte string is text exactly when
its lossy reading writes back to the same bytes. This module does not normalize characters.
-/

namespace CompilerDriver

abbrev Bytes := List UInt8

namespace Text.Utf8

def encodeChar (char : Char) : Bytes :=
  let code := char.toNat
  if code < 0x80 then
    [UInt8.ofNat code]
  else if code < 0x800 then
    [UInt8.ofNat (0xC0 + code / 64), UInt8.ofNat (0x80 + code % 64)]
  else if code < 0x10000 then
    [UInt8.ofNat (0xE0 + code / 4096), UInt8.ofNat (0x80 + code / 64 % 64),
      UInt8.ofNat (0x80 + code % 64)]
  else
    [UInt8.ofNat (0xF0 + code / 262144), UInt8.ofNat (0x80 + code / 4096 % 64),
      UInt8.ofNat (0x80 + code / 64 % 64), UInt8.ofNat (0x80 + code % 64)]

def encodeChars (chars : List Char) : Bytes :=
  chars.flatMap encodeChar

@[simp] theorem encodeChars_nil : encodeChars [] = [] := rfl

@[simp] theorem encodeChars_cons (char : Char) (rest : List Char) :
    encodeChars (char :: rest) = encodeChar char ++ encodeChars rest := rfl

@[simp] theorem encodeChars_append (left right : List Char) :
    encodeChars (left ++ right) = encodeChars left ++ encodeChars right :=
  List.flatMap_append

def encode (text : String) : Bytes :=
  encodeChars text.toList

/-- A character that has begun: how many bytes it still needs, the bounds on the next one, and the
code read so far. -/
structure Begun where
  needed : Nat
  low : Nat
  high : Nat
  code : Nat
  deriving Repr, DecidableEq

inductive Opening where
  | whole (char : Char)
  | begins (begun : Begun)
  | stray
  deriving Repr, DecidableEq

/-- The bounds on the second byte rule out overlong forms, surrogates and codes past the last
character. -/
def opening (byte : UInt8) : Opening :=
  let value := byte.toNat
  if value < 0x80 then .whole (Char.ofNat value)
  else if value < 0xC2 then .stray
  else if value < 0xE0 then .begins ⟨1, 0x80, 0xBF, value - 0xC0⟩
  else if value = 0xE0 then .begins ⟨2, 0xA0, 0xBF, 0⟩
  else if value = 0xED then .begins ⟨2, 0x80, 0x9F, 13⟩
  else if value < 0xF0 then .begins ⟨2, 0x80, 0xBF, value - 0xE0⟩
  else if value = 0xF0 then .begins ⟨3, 0x90, 0xBF, 0⟩
  else if value < 0xF4 then .begins ⟨3, 0x80, 0xBF, value - 0xF0⟩
  else if value = 0xF4 then .begins ⟨3, 0x80, 0x8F, 4⟩
  else .stray

def replacement : Char := Char.ofNat 0xFFFD

def readFrom : Option Begun → Bytes → List Char
  | none, [] => []
  | some _, [] => [replacement]
  | none, byte :: rest =>
      match opening byte with
      | .whole char => char :: readFrom none rest
      | .begins begun => readFrom (some begun) rest
      | .stray => replacement :: readFrom none rest
  | some begun, byte :: rest =>
      if begun.low ≤ byte.toNat ∧ byte.toNat ≤ begun.high then
        let code := begun.code * 64 + (byte.toNat - 0x80)
        if begun.needed ≤ 1 then
          Char.ofNat code :: readFrom none rest
        else
          readFrom (some ⟨begun.needed - 1, 0x80, 0xBF, code⟩) rest
      else
        match opening byte with
        | .whole char => replacement :: char :: readFrom none rest
        | .begins next => replacement :: readFrom (some next) rest
        | .stray => replacement :: replacement :: readFrom none rest

def lossyChars (bytes : Bytes) : List Char :=
  readFrom none bytes

@[simp] theorem lossyChars_nil : lossyChars [] = [] := rfl

def lossy (bytes : Bytes) : String :=
  String.ofList (lossyChars bytes)

def isText (bytes : Bytes) : Bool :=
  encodeChars (lossyChars bytes) == bytes

/-- The text a byte string is, when it is one. -/
def decode? (bytes : Bytes) : Option String :=
  if isText bytes then some (lossy bytes) else none

end Text.Utf8

def Bytes.ofText (text : String) : Bytes :=
  Text.Utf8.encode text

end CompilerDriver
