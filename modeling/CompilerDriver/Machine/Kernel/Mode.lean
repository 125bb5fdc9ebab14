import CompilerDriver.Text.Utf8

/-!
Permissions of files as numbers: three bits for each of three classes, the owner's first. They are
written in base eight, or as letters that change others.
-/

namespace CompilerDriver.Machine.Kernel.Mode

def full : Nat := 511

def withoutBits (mode bits : Nat) : Nat :=
  Nat.land mode (full - bits)

def classBits (mode index : Nat) : Nat :=
  mode / Nat.pow 8 (2 - index) % 8

def octal (width value : Nat) : String :=
  let digits := Nat.toDigits 8 value
  String.ofList (List.replicate (width - digits.length) '0' ++ digits)

def symbolic (mode : Nat) : String :=
  let letters (bits : Nat) : String :=
    (if bits / 4 % 2 = 1 then "r" else "") ++ (if bits / 2 % 2 = 1 then "w" else "") ++
      (if bits % 2 = 1 then "x" else "")
  "u=" ++ letters (classBits mode 0) ++ ",g=" ++ letters (classBits mode 1) ++ ",o=" ++
    letters (classBits mode 2)

def classMask? : Char → Option Nat
  | 'u' => some 448
  | 'g' => some 56
  | 'o' => some 7
  | 'a' => some full
  | _ => none

def permission? (mode : Nat) : Char → Option Nat
  | 'r' => some 292
  | 'w' => some 146
  | 'x' => some 73
  | 'X' => some (if Nat.land mode 73 = 0 then 0 else 73)
  | 'u' => some (classBits mode 0 * 73)
  | 'g' => some (classBits mode 1 * 73)
  | 'o' => some (classBits mode 2 * 73)
  | _ => none

def applySigns (classes : Nat) : (steps : Nat) → List Char → Nat → Option Nat
  | 0, _, mode => some mode
  | steps + 1, text, mode =>
      match text with
      | [] => some mode
      | sign :: rest =>
          if !(['+', '-', '='].contains sign) then none
          else
            let (letters, behind) := rest.span fun letter => (permission? mode letter).isSome
            let bits := Nat.land classes
              ((letters.filterMap (permission? mode)).foldl Nat.lor 0)
            let next :=
              if sign = '+' then Nat.lor mode bits
              else if sign = '-' then withoutBits mode bits
              else Nat.lor (withoutBits mode classes) bits
            applySigns classes steps behind next

def applyClause (mode : Nat) (clause : List Char) : Option Nat :=
  let (who, behind) := clause.span fun letter => (classMask? letter).isSome
  let classes := if who.isEmpty then full else (who.filterMap classMask?).foldl Nat.lor 0
  applySigns classes (clause.length + 1) behind mode

def clauses : List Char → List (List Char)
  | [] => [[]]
  | ',' :: rest => [] :: clauses rest
  | unit :: rest =>
      match clauses rest with
      | [] => [[unit]]
      | first :: others => (unit :: first) :: others

/-- The mode that a symbolic one makes of another. Only behind others may a clause be empty. -/
def applyMode (mode : Nat) (text : List Char) : Option Nat :=
  let all := clauses text
  let used := if 1 < all.length && all.getLast? == some [] then all.dropLast else all
  if used.any List.isEmpty then none else used.foldlM applyClause mode

def ofOctal? (text : List Char) : Option Nat :=
  if text.isEmpty then none
  else text.foldlM (fun value digit =>
    if '0' ≤ digit && digit ≤ '7' then some (8 * value + (digit.toNat - '0'.toNat)) else none) 0

def listing (mode : Nat) : String :=
  let letters (bits : Nat) : List Char :=
    [if bits / 4 % 2 = 1 then 'r' else '-', if bits / 2 % 2 = 1 then 'w' else '-',
      if bits % 2 = 1 then 'x' else '-']
  String.ofList (letters (classBits mode 0) ++ letters (classBits mode 1) ++
    letters (classBits mode 2))

end CompilerDriver.Machine.Kernel.Mode
