import CompilerDriver.Options.Flag
import CompilerDriver.Toolchain

/-!
Readers for the values of options. A path may be any bytes but not none; text and numbers must be
text. A number has decimal digits only, perhaps after a sign.
-/

namespace CompilerDriver.Options.Value

def path (raw : Bytes) : Except UsageError Path :=
  if raw.isEmpty then .error .invalidValue else .ok ⟨raw⟩

def text (raw : Bytes) : Except UsageError String :=
  match Text.Utf8.decode? raw with
  | some text => .ok text
  | none => .error .notText

def digit? (char : Char) : Option Nat :=
  if '0'.toNat ≤ char.toNat ∧ char.toNat ≤ '9'.toNat then some (char.toNat - '0'.toNat) else none

def digitsFrom (total : Nat) : List Char → Option Nat
  | [] => some total
  | char :: rest =>
      match digit? char with
      | some value => digitsFrom (total * 10 + value) rest
      | none => none

def digits? (chars : List Char) : Option Nat :=
  if chars.isEmpty then none else digitsFrom 0 chars

def unsigned? : List Char → Option Nat
  | '+' :: rest => digits? rest
  | chars => digits? chars

/-- A minus sign is read too, and then only zero is not negative. -/
def signed? : List Char → Option Nat
  | '-' :: rest =>
      match digits? rest with
      | some 0 => some 0
      | _ => none
  | chars => unsigned? chars

def below? (bound : Nat) (value : Option Nat) : Except UsageError Nat :=
  match value with
  | some number => if number < bound then .ok number else .error .unreadableNumber
  | none => .error .unreadableNumber

def countBound : Nat := 18446744073709551616

def stageBound : Nat := 4294967296

def count (raw : Bytes) : Except UsageError Nat :=
  match text raw with
  | .ok value => below? countBound (unsigned? value.toList)
  | .error error => .error error

/-- A stage: thirty-two bits, read with a sign and then checked. -/
def stage (raw : Bytes) : Except UsageError Nat :=
  match text raw with
  | .ok value => below? stageBound (signed? value.toList)
  | .error error => .error error

def runtime (raw : Bytes) : Except UsageError Runtime :=
  if raw = Bytes.ofText Runtime.node.name then .ok .node else .error .invalidValue

def falseWords : List String :=
  ["", "n", "no", "f", "false", "off", "0"]

/-- Every text but the words for no, in any case, is a yes. -/
def switch (raw : Bytes) : Except UsageError Bool :=
  match text raw with
  | .ok value => .ok (!falseWords.contains (String.ofList (value.toList.map Char.toLower)))
  | .error error => .error error

end CompilerDriver.Options.Value
