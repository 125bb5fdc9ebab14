import CompilerDriver.Text.Base64

/-!
Base 64 read back. Four symbols are three bytes again, and the equals signs of the last group say
how many of them there are. The bits that an incomplete group leaves over have to be zero.
-/

namespace CompilerDriver.Text.Base64

def value? (char : Char) : Option Nat :=
  if 'A' ≤ char ∧ char ≤ 'Z' then some (char.toNat - 65)
  else if 'a' ≤ char ∧ char ≤ 'z' then some (char.toNat - 97 + 26)
  else if '0' ≤ char ∧ char ≤ '9' then some (char.toNat - 48 + 52)
  else if char = '+' then some 62
  else if char = '/' then some 63
  else none

theorem value?_symbol {value : Nat} (small : value < 64) : value? (symbol value) = some value := by
  have all : ∀ value < 64, value? (symbol value) = some value := by decide
  exact all value small

theorem value?_padding : value? '=' = none := rfl

def group (first second third fourth : Nat) : Nat :=
  first * 262144 + second * 4096 + third * 64 + fourth

def triple (value : Nat) : Bytes :=
  [UInt8.ofNat (value / 65536), UInt8.ofNat (value / 256 % 256), UInt8.ofNat (value % 256)]

theorem group_values {value : Nat} :
    group (value / 262144) (value / 4096 % 64) (value / 64 % 64) (value % 64) = value := by
  unfold group
  omega

theorem triple_bytes (first second third : UInt8) :
    triple (first.toNat * 65536 + second.toNat * 256 + third.toNat) = [first, second, third] := by
  have firstLt : first.toNat < 256 := first.toNat_lt
  have secondLt : second.toNat < 256 := second.toNat_lt
  have thirdLt : third.toNat < 256 := third.toNat_lt
  have high : (first.toNat * 65536 + second.toNat * 256 + third.toNat) / 65536 = first.toNat := by
    omega
  have middle :
      (first.toNat * 65536 + second.toNat * 256 + third.toNat) / 256 % 256 = second.toNat := by
    omega
  have low : (first.toNat * 65536 + second.toNat * 256 + third.toNat) % 256 = third.toNat := by
    omega
  unfold triple
  rw [high, middle, low]
  simp only [UInt8.ofNat_toNat]

/-- Padding may stand only at the end, and behind two symbols or three. -/
def decodeChars? : List Char → Option Bytes
  | [] => some []
  | first :: second :: third :: fourth :: rest =>
      match value? first, value? second, value? third, value? fourth with
      | some first, some second, some third, some fourth =>
          (decodeChars? rest).map fun tail => triple (group first second third fourth) ++ tail
      | some first, some second, some third, none =>
          if fourth = '=' ∧ rest = [] ∧ third % 4 = 0 then
            some ((triple (group first second third 0)).take 2)
          else none
      | some first, some second, none, none =>
          if third = '=' ∧ fourth = '=' ∧ rest = [] ∧ second % 16 = 0 then
            some ((triple (group first second 0 0)).take 1)
          else none
      | _, _, _, _ => none
  | _ => none

def decode? (text : String) : Option Bytes :=
  decodeChars? text.toList

theorem decodeChars?_group {first second third fourth : Nat} (rest : List Char)
    (firstLt : first < 64) (secondLt : second < 64) (thirdLt : third < 64)
    (fourthLt : fourth < 64) :
    decodeChars? (symbol first :: symbol second :: symbol third :: symbol fourth :: rest) =
      (decodeChars? rest).map fun tail => triple (group first second third fourth) ++ tail := by
  rw [decodeChars?, value?_symbol firstLt, value?_symbol secondLt, value?_symbol thirdLt,
    value?_symbol fourthLt]

theorem decodeChars?_three {first second third : Nat} (firstLt : first < 64)
    (secondLt : second < 64) (thirdLt : third < 64) (spare : third % 4 = 0) :
    decodeChars? [symbol first, symbol second, symbol third, '='] =
      some ((triple (group first second third 0)).take 2) := by
  rw [decodeChars?, value?_symbol firstLt, value?_symbol secondLt, value?_symbol thirdLt,
    value?_padding]
  exact if_pos ⟨rfl, rfl, spare⟩

theorem decodeChars?_two {first second : Nat} (firstLt : first < 64) (secondLt : second < 64)
    (spare : second % 16 = 0) :
    decodeChars? [symbol first, symbol second, '=', '='] =
      some ((triple (group first second 0 0)).take 1) := by
  rw [decodeChars?, value?_symbol firstLt, value?_symbol secondLt, value?_padding]
  exact if_pos ⟨rfl, rfl, rfl, spare⟩

theorem decodeChars?_encodeChars (bytes : Bytes) : decodeChars? (encodeChars bytes) = some bytes := by
  fun_induction encodeChars bytes with
  | case1 => rfl
  | case2 first value =>
      have firstLt : first.toNat < 256 := first.toNat_lt
      have whole : group (value / 262144) (value / 4096 % 64) 0 0 =
          first.toNat * 65536 + (0 : UInt8).toNat * 256 + (0 : UInt8).toNat := by
        unfold group value
        simp only [UInt8.toNat_zero]
        omega
      rw [decodeChars?_two (by omega) (by omega) (by omega), whole, triple_bytes]
      rfl
  | case3 first second value =>
      have firstLt : first.toNat < 256 := first.toNat_lt
      have secondLt : second.toNat < 256 := second.toNat_lt
      have whole : group (value / 262144) (value / 4096 % 64) (value / 64 % 64) 0 =
          first.toNat * 65536 + second.toNat * 256 + (0 : UInt8).toNat := by
        unfold group value
        simp only [UInt8.toNat_zero]
        omega
      rw [decodeChars?_three (by omega) (by omega) (by omega) (by omega), whole, triple_bytes]
      rfl
  | case4 first second third rest value ih =>
      have firstLt : first.toNat < 256 := first.toNat_lt
      have secondLt : second.toNat < 256 := second.toNat_lt
      have thirdLt : third.toNat < 256 := third.toNat_lt
      rw [decodeChars?_group _ (by omega) (by omega) (by omega) (by omega), ih, group_values,
        triple_bytes]
      rfl

theorem decode?_encode (bytes : Bytes) : decode? (encode bytes) = some bytes := by
  unfold decode? encode
  rw [String.toList_ofList]
  exact decodeChars?_encodeChars bytes

end CompilerDriver.Text.Base64
