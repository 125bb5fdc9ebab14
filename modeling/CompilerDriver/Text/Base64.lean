import CompilerDriver.Text.Utf8

/-!
Base 64 with padding: three bytes are written as four symbols, and an incomplete last group is
filled with equals signs. No line breaks are written.
-/

namespace CompilerDriver.Text.Base64

def symbol (value : Nat) : Char :=
  if value < 26 then Char.ofNat (65 + value)
  else if value < 52 then Char.ofNat (97 + (value - 26))
  else if value < 62 then Char.ofNat (48 + (value - 52))
  else if value = 62 then '+'
  else '/'

def encodeChars : Bytes → List Char
  | [] => []
  | [first] =>
      let value := first.toNat * 65536
      [symbol (value / 262144), symbol (value / 4096 % 64), '=', '=']
  | [first, second] =>
      let value := first.toNat * 65536 + second.toNat * 256
      [symbol (value / 262144), symbol (value / 4096 % 64), symbol (value / 64 % 64), '=']
  | first :: second :: third :: rest =>
      let value := first.toNat * 65536 + second.toNat * 256 + third.toNat
      symbol (value / 262144) :: symbol (value / 4096 % 64) :: symbol (value / 64 % 64) ::
        symbol (value % 64) :: encodeChars rest

def encode (bytes : Bytes) : String :=
  String.ofList (encodeChars bytes)

end CompilerDriver.Text.Base64
