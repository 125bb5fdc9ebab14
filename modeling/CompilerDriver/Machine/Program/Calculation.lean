import CompilerDriver.Machine.Program.Input
import CompilerDriver.Machine.Regular

/-!
Expressions whose parts are words of their own: numbers, texts and operators. A value that is empty
or zero counts as false, and the status says which it was.
-/

namespace CompilerDriver.Machine.Program.Calculation

inductive Value where
  | number (value : Int)
  | text (bytes : Bytes)
  deriving Repr, DecidableEq, Inhabited

namespace Value

def bytes : Value → Bytes
  | .number value => Bytes.ofText (toString value)
  | .text bytes => bytes

def number? : Value → Option Int
  | .number value => some value
  | .text bytes =>
      let (negative, digits) :=
        match bytes with
        | 0x2D :: rest => (true, rest)
        | rest => (false, rest)
      if digits.isEmpty || !digits.all Regular.isDigit then none
      else
        let size : Int := Regular.digitsValue digits
        some (if negative then -size else size)

def isNull (value : Value) : Bool :=
  let bytes := value.bytes
  let digits := if bytes.head? = some 0x2D then bytes.drop 1 else bytes
  bytes.isEmpty || (!digits.isEmpty && digits.all (· == 0x30))

def truth (holds : Bool) : Value :=
  .number (if holds then 1 else 0)

end Value

inductive Trouble where
  | missing (after : Bytes)
  | unexpected (word : Bytes)
  | unclosed (after : Bytes)
  | notClosed (word : Bytes)
  | closed
  | notNumeric
  | divisionByZero
  | expression (trouble : Regular.Trouble)
  deriving Repr, DecidableEq, Inhabited

def Trouble.message : Trouble → Bytes
  | .missing after => Bytes.ofText "syntax error: missing argument after " ++ Quoting.word after
  | .unexpected word => Bytes.ofText "syntax error: unexpected argument " ++ Quoting.word word
  | .unclosed after => Bytes.ofText "syntax error: expecting ')' after " ++ Quoting.word after
  | .notClosed word => Bytes.ofText "syntax error: expecting ')' instead of " ++ Quoting.word word
  | .closed => Bytes.ofText "syntax error: unexpected ')'"
  | .notNumeric => Bytes.ofText "non-integer argument"
  | .divisionByZero => Bytes.ofText "division by zero"
  | .expression .bracket => Bytes.ofText "Invalid regular expression"
  | .expression trouble => Bytes.ofText trouble.message

/-- The words that are left, and the one that stands before them. -/
structure Place where
  before : Bytes := []
  left : List Bytes

abbrev Step := Place → Except Trouble (Value × Place)

/-- How much of a text an expression covers from its start on, or what its first group covers. -/
def covered (text pattern : Value) : Except Trouble Value :=
  match Regular.read false pattern.bytes with
  | .error trouble => .error (.expression trouble)
  | .ok regular =>
      let found := regular.endAt? false { rest := text.bytes }
      if 0 < regular.groupCount then
        .ok (.text ((found.bind fun stop => stop.groups.lookup 1).getD []))
      else .ok (.number ((found.map Regular.Spot.position).getD 0))

def indexOf (text letters : Bytes) : Nat :=
  ((text.findIdx? letters.contains).map (· + 1)).getD 0

def part (text : Bytes) (start count : Option Int) : Bytes :=
  match start, count with
  | some start, some count =>
      if start ≤ 0 || count ≤ 0 then [] else (text.drop (start - 1).toNat).take count.toNat
  | _, _ => []

def compare (operator : String) (left right : Value) : Option Value :=
  let order : Ordering :=
    match left.number?, right.number? with
    | some one, some other => Ord.compare one other
    | _, _ =>
        if FileTree.bytesLe left.bytes right.bytes then
          if left.bytes = right.bytes then .eq else .lt
        else .gt
  match operator with
  | "<" => some (.truth (order == .lt))
  | "<=" => some (.truth (order != .gt))
  | "=" | "==" => some (.truth (order == .eq))
  | "!=" => some (.truth (order != .eq))
  | ">=" => some (.truth (order != .lt))
  | ">" => some (.truth (order == .gt))
  | _ => none

def calculate (operator : String) (left right : Value) : Option (Except Trouble Value) :=
  let numbers (operation : Int → Int → Except Trouble Value) : Option (Except Trouble Value) :=
    match left.number?, right.number? with
    | some one, some other => some (operation one other)
    | _, _ => some (.error .notNumeric)
  let divided (operation : Int → Int → Int) (one other : Int) : Except Trouble Value :=
    if other = 0 then .error .divisionByZero else .ok (.number (operation one other))
  match operator with
  | "+" => numbers fun one other => .ok (.number (one + other))
  | "-" => numbers fun one other => .ok (.number (one - other))
  | "*" => numbers fun one other => .ok (.number (one * other))
  | "/" => numbers (divided Int.tdiv)
  | "%" => numbers (divided Int.tmod)
  | ":" => some (covered left right)
  | "|" =>
      some (.ok (if !left.isNull then left else if !right.isNull then right else .number 0))
  | "&" => some (.ok (if left.isNull || right.isNull then .number 0 else left))
  | _ => (compare operator left right).map .ok

def levels : List (List String) :=
  [["|"], ["&"], ["<", "<=", "=", "==", "!=", ">=", ">"], ["+", "-"], ["*", "/", "%"], [":"]]

def next (place : Place) : Except Trouble (Bytes × Place) :=
  match place.left with
  | [] => .error (.missing place.before)
  | word :: rest => .ok (word, { before := word, left := rest })

mutual

/-- An expression of operators that bind as tightly as the given ones, or tighter. -/
def level : (steps : Nat) → List (List String) → Step
  | 0, _, place => .error (.missing place.before)
  | steps + 1, [], place => named steps place
  | steps + 1, operators :: tighter, place =>
      match level steps tighter place with
      | .error trouble => .error trouble
      | .ok (value, after) => levelFrom steps operators tighter value after

def levelFrom : (steps : Nat) → List String → List (List String) → Value → Step
  | 0, _, _, value, place => .ok (value, place)
  | steps + 1, operators, tighter, value, place =>
      match place.left with
      | word :: rest =>
          if operators.contains (shown word) then
            match level steps tighter { before := word, left := rest } with
            | .error trouble => .error trouble
            | .ok (right, after) =>
                match calculate (shown word) value right with
                | some (.ok result) => levelFrom steps operators tighter result after
                | some (.error trouble) => .error trouble
                | none => .ok (value, place)
          else .ok (value, place)
      | [] => .ok (value, place)

def named : (steps : Nat) → Step
  | 0, place => .error (.missing place.before)
  | steps + 1, place =>
      let text (value : Value) (after : Place) : Except Trouble (Value × Place) :=
        .ok (value, after)
      match place.left with
      | [] => .error (.missing place.before)
      | word :: rest =>
          let inner : Place := { before := word, left := rest }
          match shown word with
          | "+" => (next inner).map fun (word, after) => (.text word, after)
          | "length" =>
              match named steps inner with
              | .error trouble => .error trouble
              | .ok (value, after) => text (.number value.bytes.length) after
          | "match" =>
              match two steps inner with
              | .error trouble => .error trouble
              | .ok (left, right, after) =>
                  (covered left right).map fun value => (value, after)
          | "index" =>
              match two steps inner with
              | .error trouble => .error trouble
              | .ok (left, right, after) => text (.number (indexOf left.bytes right.bytes)) after
          | "substr" =>
              match two steps inner with
              | .error trouble => .error trouble
              | .ok (left, start, middle) =>
                  match named steps middle with
                  | .error trouble => .error trouble
                  | .ok (count, after) =>
                      text (.text (part left.bytes start.number? count.number?)) after
          | "(" =>
              match level steps levels inner with
              | .error trouble => .error trouble
              | .ok (value, after) =>
                  match after.left with
                  | [] => .error (.unclosed after.before)
                  | closing :: others =>
                      if closing = [0x29] then .ok (value, { before := closing, left := others })
                      else .error (.notClosed closing)
          | ")" => .error .closed
          | _ => text (.text word) inner

def two : (steps : Nat) → Place → Except Trouble (Value × Value × Place)
  | 0, place => .error (.missing place.before)
  | steps + 1, place =>
      match named steps place with
      | .error trouble => .error trouble
      | .ok (left, middle) =>
          (named steps middle).map fun (right, after) => (left, right, after)

end

def evaluate (words : List Bytes) : Except Trouble Value :=
  match level (8 * words.length + 16) levels { left := words } with
  | .error trouble => .error trouble
  | .ok (value, place) =>
      match place.left with
      | [] => .ok value
      | word :: _ => .error (.unexpected word)

def program : Program := fun call => do
  let words :=
    match call.arguments with
    | [0x2D, 0x2D] :: rest => rest
    | words => words
  if words.isEmpty then refuseText call 2 "missing operand"
  else
    match evaluate words with
    | .error trouble =>
        complain call trouble.message
        return 2
    | .ok value => printOr 3 call (value.bytes ++ [0x0A]) (if value.isNull then 1 else 0)

end CompilerDriver.Machine.Program.Calculation
