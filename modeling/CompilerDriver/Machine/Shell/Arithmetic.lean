import CompilerDriver.Machine.Shell.Form

/-!
Whole-number expressions of the shell, in sixty-four bits with a sign. Names stand for the numbers
their values spell, and an absent or empty one counts as zero. Of a choice, and of the connectives
that need not look at their right side, the part that does not count is read but neither looks at
names nor assigns.
-/

namespace CompilerDriver.Machine.Shell.Arithmetic

inductive Token where
  | number (value : Int)
  | name (units : Units)
  | symbol (text : String)
  | unknown
  deriving Repr, DecidableEq, Inhabited

def wordSize : Nat := 18446744073709551616

def wrap (value : Int) : Int :=
  Int.bmod value wordSize

def digitValue (unit : Char) : Nat :=
  if unit.isDigit then unit.toNat - '0'.toNat
  else if unit.isLower then unit.toNat - 'a'.toNat + 10
  else unit.toNat - 'A'.toNat + 10

def inBase (base : Nat) (units : Units) : Nat :=
  units.foldl (fun total unit => total * base + digitValue unit) 0

def isOctal (unit : Char) : Bool :=
  '0' ≤ unit && unit ≤ '7'

def isHexadecimal (unit : Char) : Bool :=
  unit.isDigit || ('a' ≤ unit.toLower && unit.toLower ≤ 'f')

def largest : Nat := 9223372036854775807

/-- The number at the front of a text that starts with a digit, without a bound, and what is behind
it. A number may be written in base ten, in base eight behind a zero, or in base sixteen. -/
def exactAt (units : Units) : Nat × Units :=
  let number (base : Nat) (spelling : Units × Units) : Nat × Units :=
    (inBase base spelling.1, spelling.2)
  match units with
  | '0' :: mark :: digit :: rest =>
      if (mark == 'x' || mark == 'X') && isHexadecimal digit then
        number 16 ((digit :: rest).span isHexadecimal)
      else number 8 (units.span isOctal)
  | '0' :: _ => number 8 (units.span isOctal)
  | units => number 10 (units.span Char.isDigit)

/-- The number at the front of a text; one that is too large counts as the largest. -/
def numberAt (units : Units) : Nat × Units :=
  let (value, behind) := exactAt units
  (min largest value, behind)

def isBlank (unit : Char) : Bool :=
  unit == ' ' || ('\t' ≤ unit && unit ≤ '\r')

def signed (units : Units) : Bool × Units :=
  match units with
  | '-' :: rest => (true, rest)
  | '+' :: rest => (false, rest)
  | rest => (false, rest)

/-- The number that a whole text spells, with blanks around it. No text at all spells zero. -/
def spelled? (units : Units) : Option Int :=
  if units.isEmpty then some 0
  else
    let (negative, digits) := signed (units.dropWhile isBlank)
    if !(digits.head?.any Char.isDigit) then none
    else
      let (value, behind) := exactAt digits
      let number : Int := if negative then -value else value
      if behind.all isBlank && number ≤ largest && -(largest + 1 : Int) ≤ number then some number
      else none

def decimal? (word : Bytes) : Option Int :=
  let (negative, start) := signed ((Units.ofBytes word).dropWhile isBlank)
  let (digits, behind) := start.span Char.isDigit
  let size : Int := inBase 10 digits
  let value := if negative then -size else size
  let fits := value ≤ largest && -(largest : Int) - 1 ≤ value
  if digits.isEmpty || !behind.all isBlank || !fits then none else some value

def largestCount : Int := 2147483647

def count? (word : Bytes) : Option Nat :=
  ((decimal? word).filter fun value => 0 ≤ value && value ≤ largestCount).map Int.toNat

def symbols : List String :=
  ["<<=", ">>=", "<<", ">>", "<=", ">=", "==", "!=", "&&", "||", "*=", "/=", "%=", "+=", "-=", "&=",
   "^=", "|=", "+", "-", "*", "/", "%", "<", ">", "&", "|", "^", "~", "!", "(", ")", "?", ":", "="]

def isSpace (unit : Char) : Bool :=
  unit == ' ' || unit == '\t' || unit == '\n'

def tokens : (steps : Nat) → Units → List Token
  | 0, _ => []
  | steps + 1, text =>
      match text with
      | [] => []
      | unit :: rest =>
          if isSpace unit then tokens steps rest
          else if unit.isDigit then
            let (value, left) := numberAt text
            .number value :: tokens steps left
          else if isNameStart unit then
            let (name, left) := text.span isNameUnit
            .name name :: tokens steps left
          else
            match symbols.find? fun symbol => symbol.toList.isPrefixOf text with
            | some symbol => .symbol symbol :: tokens steps (text.drop symbol.length)
            | none => [.unknown]

inductive Trouble where
  | malformed
  | trailing
  | unclosed
  | halfChoice
  | divisionByZero
  | overflow
  | illegal (word : Units)
  | constant (name : Units)
  deriving Repr, DecidableEq, Inhabited

/-- What names stand for, and what was assigned to them, the latest first. -/
structure Ledger where
  value? : Units → Option Units
  isConstant : Units → Bool
  assigned : List (Units × Int) := []

def Ledger.look (ledger : Ledger) (name : Units) : Except Trouble Int :=
  match ledger.assigned.lookup name with
  | some value => .ok value
  | none =>
      match ledger.value? name with
      | none => .ok 0
      | some text =>
          match spelled? text with
          | some value => .ok value
          | none => .error (.illegal text)

abbrev Step := Ledger → Except Trouble (Int × List Token × Ledger)

/-- How tightly a binary operator binds; a larger number binds tighter. -/
def strength : String → Option Nat
  | "|" => some 1
  | "^" => some 2
  | "&" => some 3
  | "==" | "!=" => some 4
  | "<" | ">" | "<=" | ">=" => some 5
  | "<<" | ">>" => some 6
  | "+" | "-" => some 7
  | "*" | "/" | "%" => some 8
  | _ => none

def truth (value : Bool) : Int :=
  if value then 1 else 0

def bits (operation : Nat → Nat → Nat) (left right : Int) : Int :=
  wrap (operation (left % wordSize).toNat (right % wordSize).toNat)

/-- The factor of a shift; only the low six bits of its amount count. -/
def shiftFactor (amount : Int) : Nat :=
  Nat.pow 2 (amount % 64).toNat

/-- A division, of which zero is no divisor. The one quotient that does not fit cannot be computed,
nor the remainder that belongs to it. -/
def divide (operation : Int → Int → Int) (left right : Int) : Except Trouble Int :=
  if right = 0 then .error .divisionByZero
  else if right = -1 && left = -(largest : Int) - 1 then .error .overflow
  else .ok (operation left right)

def apply (symbol : String) (left right : Int) : Except Trouble Int :=
  match symbol with
  | "+" => .ok (wrap (left + right))
  | "-" => .ok (wrap (left - right))
  | "*" => .ok (wrap (left * right))
  | "/" => divide Int.tdiv left right
  | "%" => divide Int.tmod left right
  | "<" => .ok (truth (left < right))
  | ">" => .ok (truth (right < left))
  | "<=" => .ok (truth (left ≤ right))
  | ">=" => .ok (truth (right ≤ left))
  | "==" => .ok (truth (left = right))
  | "!=" => .ok (truth (left ≠ right))
  | "<<" => .ok (wrap (left * shiftFactor right))
  | ">>" => .ok (left.fdiv (shiftFactor right))
  | "&" => .ok (bits Nat.land left right)
  | "|" => .ok (bits Nat.lor left right)
  | "^" => .ok (bits Nat.xor left right)
  | _ => .error .malformed

/-- The operator that an assignment applies first; a plain one applies none. -/
def assignment? (symbol : String) : Option (Option String) :=
  if symbol = "=" then some none
  else if ["<<=", ">>=", "*=", "/=", "%=", "+=", "-=", "&=", "^=", "|="].contains symbol then
    some (some (String.ofList symbol.toList.dropLast))
  else none

mutual

/-- A number, a name, a sign with what it applies to, or an expression in parentheses. -/
def primary : (steps : Nat) → (counts : Bool) → List Token → Step
  | 0, _, _ => fun _ => .error .malformed
  | steps + 1, counts, tokens => fun ledger =>
      let after (change : Int → Int) (rest : List Token) :
          Except Trouble (Int × List Token × Ledger) :=
        (primary steps counts rest ledger).map fun (value, left, next) => (change value, left, next)
      match tokens with
      | .number value :: rest => .ok (wrap value, rest, ledger)
      | .name units :: rest =>
          if counts then (ledger.look units).map fun value => (value, rest, ledger)
          else .ok (0, rest, ledger)
      | .symbol "(" :: rest =>
          match assigning steps counts rest ledger with
          | .ok (value, .symbol ")" :: left, next) => .ok (value, left, next)
          | .ok _ => .error .unclosed
          | .error trouble => .error trouble
      | .symbol "-" :: rest => after (fun value => wrap (-value)) rest
      | .symbol "+" :: rest => after id rest
      | .symbol "!" :: rest => after (fun value => truth (value = 0)) rest
      | .symbol "~" :: rest => after (fun value => -value - 1) rest
      | _ => .error .malformed

def binary : (steps least : Nat) → (counts : Bool) → List Token → Step
  | 0, _, _, _ => fun _ => .error .malformed
  | steps + 1, least, counts, tokens => fun ledger =>
      match primary steps counts tokens ledger with
      | .error trouble => .error trouble
      | .ok (value, left, next) => binaryFrom steps least counts value left next

def binaryFrom : (steps least : Nat) → (counts : Bool) → Int → List Token → Step
  | 0, _, _, value, tokens => fun ledger => .ok (value, tokens, ledger)
  | steps + 1, least, counts, value, tokens => fun ledger =>
      match tokens with
      | .symbol symbol :: rest =>
          match strength symbol with
          | some level =>
              if level < least then .ok (value, tokens, ledger)
              else
                match binary steps (level + 1) counts rest ledger with
                | .error trouble => .error trouble
                | .ok (right, left, next) =>
                    match if counts then apply symbol value right else .ok right with
                    | .error trouble => .error trouble
                    | .ok result => binaryFrom steps least counts result left next
          | none => .ok (value, tokens, ledger)
      | _ => .ok (value, tokens, ledger)

/-- Joint conditions; the right one counts only if the left one holds. -/
def jointly : (steps : Nat) → (counts : Bool) → List Token → Step
  | 0, _, _ => fun _ => .error .malformed
  | steps + 1, counts, tokens => fun ledger =>
      match binary steps 1 counts tokens ledger with
      | .ok (left, .symbol "&&" :: rest, next) =>
          (jointly steps (counts && left != 0) rest next).map fun (right, behind, last) =>
            (truth (left ≠ 0 ∧ right ≠ 0), behind, last)
      | result => result

/-- Alternatives; the right one counts only if the left one does not hold. -/
def alternately : (steps : Nat) → (counts : Bool) → List Token → Step
  | 0, _, _ => fun _ => .error .malformed
  | steps + 1, counts, tokens => fun ledger =>
      match jointly steps counts tokens ledger with
      | .ok (left, .symbol "||" :: rest, next) =>
          (alternately steps (counts && left == 0) rest next).map fun (right, behind, last) =>
            (truth (left ≠ 0 ∨ right ≠ 0), behind, last)
      | result => result

def choosing : (steps : Nat) → (counts : Bool) → List Token → Step
  | 0, _, _ => fun _ => .error .malformed
  | steps + 1, counts, tokens => fun ledger =>
      match alternately steps counts tokens ledger with
      | .ok (condition, .symbol "?" :: rest, next) =>
          match assigning steps (counts && condition != 0) rest next with
          | .ok (chosen, .symbol ":" :: left, other) =>
              (choosing steps (counts && condition == 0) left other).map
                fun (second, behind, last) =>
                  (if condition ≠ 0 then chosen else second, behind, last)
          | .ok _ => .error .halfChoice
          | .error trouble => .error trouble
      | result => result

def assigning : (steps : Nat) → (counts : Bool) → List Token → Step
  | 0, _, _ => fun _ => .error .malformed
  | steps + 1, counts, tokens => fun ledger =>
      match tokens with
      | .name name :: .symbol symbol :: rest =>
          match assignment? symbol with
          | none => choosing steps counts tokens ledger
          | some operator =>
              match assigning steps counts rest ledger with
              | .error trouble => .error trouble
              | .ok (value, left, next) =>
                  if !counts then .ok (value, left, next)
                  else
                    let result : Except Trouble Int :=
                      match operator with
                      | none => .ok value
                      | some text => (next.look name).bind fun old => apply text old value
                    match result with
                    | .error trouble => .error trouble
                    | .ok value =>
                        if next.isConstant name then .error (.constant name)
                        else
                          .ok (value, left,
                            { next with assigned := (name, value) :: next.assigned })
      | _ => choosing steps counts tokens ledger

end

/-- The value of a whole expression, of which nothing may be left over, and what it assigns in
order. -/
def evaluate (ledger : Ledger) (text : Units) : Except Trouble (Int × List (Units × Int)) :=
  let all := tokens (text.length + 1) text
  match assigning (8 * all.length + 8) true all ledger with
  | .ok (value, [], last) => .ok (value, last.assigned.reverse)
  | .ok _ => .error .trailing
  | .error trouble => .error trouble

def Trouble.message (text : Units) : Trouble → Bytes
  | .malformed => complaint "expecting primary"
  | .trailing => complaint "expecting EOF"
  | .unclosed => complaint "expecting ')'"
  | .halfChoice => complaint "expecting ':'"
  | .divisionByZero => complaint "division by zero"
  | .overflow => complaint "overflow"
  | .illegal word => Bytes.ofText "Illegal number: " ++ Units.toBytes word
  | .constant name => Units.toBytes name ++ Bytes.ofText ": is read only"
where
  complaint (words : String) : Bytes :=
    Bytes.ofText ("arithmetic expression: " ++ words ++ ": \"") ++ Units.toBytes text ++ [0x22]

end CompilerDriver.Machine.Shell.Arithmetic
