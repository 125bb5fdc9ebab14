import CompilerDriver.Text.Utf8

/-!
Regular expressions over bytes, and the texts that they cover. An expression covers a text in
several ways; they are tried in order, those that take more first, and of all ways the one that
takes most counts, or the first of several that take as much. Groups remember what they covered
last.
-/

namespace CompilerDriver.Machine

structure ByteSet where
  ranges : List (UInt8 × UInt8)
  isNegated : Bool := false
  deriving Repr, DecidableEq, Inhabited

namespace ByteSet

def single (byte : UInt8) : ByteSet :=
  { ranges := [(byte, byte)] }

def everything : ByteSet :=
  { ranges := [], isNegated := true }

def isLower (byte : UInt8) : Bool :=
  0x61 ≤ byte && byte ≤ 0x7A

def isUpper (byte : UInt8) : Bool :=
  0x41 ≤ byte && byte ≤ 0x5A

def lower (byte : UInt8) : UInt8 :=
  if isUpper byte then byte + 32 else byte

def upper (byte : UInt8) : UInt8 :=
  if isLower byte then byte - 32 else byte

def covers (set : ByteSet) (byte : UInt8) : Bool :=
  set.ranges.any fun range => range.1 ≤ byte && byte ≤ range.2

/-- Whether a set has a byte, or the same letter of the other size where that does not matter. -/
def contains (set : ByteSet) (folds : Bool) (byte : UInt8) : Bool :=
  (set.covers byte || folds && (set.covers (lower byte) || set.covers (upper byte))) !=
    set.isNegated

def negate (set : ByteSet) : ByteSet :=
  { set with isNegated := !set.isNegated }

def classes : List (String × List (UInt8 × UInt8)) :=
  [("alpha", [(0x41, 0x5A), (0x61, 0x7A)]), ("digit", [(0x30, 0x39)]),
   ("alnum", [(0x30, 0x39), (0x41, 0x5A), (0x61, 0x7A)]), ("upper", [(0x41, 0x5A)]),
   ("lower", [(0x61, 0x7A)]), ("space", [(0x09, 0x0D), (0x20, 0x20)]),
   ("blank", [(0x09, 0x09), (0x20, 0x20)]), ("punct", [(0x21, 0x2F), (0x3A, 0x40),
     (0x5B, 0x60), (0x7B, 0x7E)]), ("print", [(0x20, 0x7E)]), ("graph", [(0x21, 0x7E)]),
   ("cntrl", [(0x00, 0x1F), (0x7F, 0x7F)]),
   ("xdigit", [(0x30, 0x39), (0x41, 0x46), (0x61, 0x66)])]

def word : ByteSet :=
  { ranges := [(0x30, 0x39), (0x41, 0x5A), (0x5F, 0x5F), (0x61, 0x7A)] }

def space : ByteSet :=
  { ranges := [(0x09, 0x0D), (0x20, 0x20)] }

end ByteSet

/-- A place between two bytes that has to be of a kind. -/
inductive Regular.Edge where
  | textStart
  | textEnd
  | wordStart
  | wordEnd
  | wordEdge
  | noWordEdge
  | behindNoWord
  | beforeNoWord
  deriving Repr, DecidableEq, Inhabited

inductive Regular where
  | nothing
  | one (set : ByteSet)
  | edge (kind : Regular.Edge)
  | group (number : Nat) (body : Regular)
  | again (number : Nat)
  | sequence (first second : Regular)
  | either (first second : Regular)
  | repeated (least : Nat) (most : Option Nat) (body : Regular)
  deriving Repr, Inhabited

namespace Regular

/-- A place in a text, with what the groups have covered so far. -/
structure Spot where
  before : Option UInt8 := none
  rest : Bytes
  position : Nat := 0
  groups : List (Nat × Bytes) := []
  deriving Repr, BEq, Inhabited

def Spot.isWordBefore (spot : Spot) : Bool :=
  spot.before.any (ByteSet.word.contains false)

def Spot.isWordBehind (spot : Spot) : Bool :=
  spot.rest.head?.any (ByteSet.word.contains false)

def Edge.holds (edge : Edge) (spot : Spot) : Bool :=
  match edge with
  | .textStart => spot.before.isNone
  | .textEnd => spot.rest.isEmpty
  | .wordStart => !spot.isWordBefore && spot.isWordBehind
  | .wordEnd => spot.isWordBefore && !spot.isWordBehind
  | .wordEdge => spot.isWordBefore != spot.isWordBehind
  | .noWordEdge => spot.isWordBefore == spot.isWordBehind
  | .behindNoWord => !spot.isWordBefore
  | .beforeNoWord => !spot.isWordBehind

def Spot.next? (spot : Spot) : Option Spot :=
  match spot.rest with
  | byte :: rest =>
      some { spot with before := some byte, rest := rest, position := spot.position + 1 }
  | [] => none

def Spot.advance : (count : Nat) → Spot → Spot
  | 0, spot => spot
  | count + 1, spot =>
      match spot.next? with
      | some next => advance count next
      | none => spot

def Spot.remember (spot : Spot) (number : Nat) (text : Bytes) : Spot :=
  { spot with
    groups := (number, text) :: spot.groups.filter fun entry => entry.1 != number }

def distinct (spots : List Spot) : List Spot :=
  (spots.foldl (fun kept spot => if kept.contains spot then kept else spot :: kept) []).reverse

def begins (folds : Bool) (front text : Bytes) : Bool :=
  if folds then (front.map ByteSet.lower).isPrefixOf (text.map ByteSet.lower)
  else front.isPrefixOf text

/-- The spots after one more repetition, and after that, until nothing more is taken. -/
def rounds (step : Spot → List Spot) : (steps : Nat) → List Spot → List (List Spot)
  | 0, spots => [spots]
  | steps + 1, spots =>
      let after := distinct <| spots.flatMap fun spot =>
        (step spot).filter fun next => spot.position < next.position
      if after.isEmpty then [spots] else spots :: rounds step steps after

def required (step : Spot → List Spot) : (count : Nat) → List Spot → List Spot
  | 0, spots => spots
  | count + 1, spots => required step count (distinct (spots.flatMap step))

def ends (folds : Bool) : Regular → Spot → List Spot
  | .nothing, spot => [spot]
  | .one set, spot =>
      if spot.rest.head?.any (set.contains folds) then spot.next?.toList else []
  | .edge kind, spot => if kind.holds spot then [spot] else []
  | .group number body, spot =>
      (ends folds body spot).map fun stop =>
        stop.remember number (spot.rest.take (stop.position - spot.position))
  | .again number, spot =>
      match spot.groups.lookup number with
      | some text => if begins folds text spot.rest then [spot.advance text.length] else []
      | none => []
  | .sequence first second, spot => distinct ((ends folds first spot).flatMap (ends folds second))
  | .either first second, spot => ends folds first spot ++ ends folds second spot
  | .repeated least most body, spot =>
      let front := required (ends folds body) least [spot]
      let limit :=
        match most with
        | some most => most - least
        | none => spot.rest.length + 1
      (rounds (ends folds body) limit front).reverse.flatten

def longest (spots : List Spot) : Option Spot :=
  spots.foldl
    (fun best spot =>
      match best with
      | some other => if other.position < spot.position then some spot else best
      | none => some spot)
    none

def endAt? (regular : Regular) (folds : Bool) (spot : Spot) : Option Spot :=
  longest (ends folds regular { spot with groups := [] })

/-- A part of a text that an expression covers: where it begins, and where it ends. -/
structure Found where
  start : Spot
  stop : Spot

def Found.text (found : Found) : Bytes :=
  found.start.rest.take (found.stop.position - found.start.position)

def searchFrom (regular : Regular) (folds : Bool) : (steps : Nat) → Spot → Option Found
  | 0, _ => none
  | steps + 1, spot =>
      match regular.endAt? folds spot with
      | some stop => some { start := spot, stop := stop }
      | none => spot.next?.bind (searchFrom regular folds steps)

def search (regular : Regular) (folds : Bool) (spot : Spot) : Option Found :=
  searchFrom regular folds (spot.rest.length + 1) spot

def groupCount : Regular → Nat
  | .group number body => max number (groupCount body)
  | .sequence first second | .either first second => max (groupCount first) (groupCount second)
  | .repeated _ _ body => groupCount body
  | _ => 0

/-- What an expression is made of, in the basic and in the extended notation. -/
inductive Token where
  | item (item : Regular)
  | start
  | finish
  | bar
  | times (least : Nat) (most : Option Nat)
  deriving Inhabited

inductive Trouble where
  | bracket
  | openGroup
  | closedGroup
  | openInterval
  | badInterval
  | badRange
  | badClass
  | badReference
  | backslash
  deriving Repr, DecidableEq, Inhabited

def Trouble.message : Trouble → String
  | .bracket => "Unmatched [, [^, [:, [., or [="
  | .openGroup => "Unmatched ( or \\("
  | .closedGroup => "Unmatched ) or \\)"
  | .openInterval => "Unmatched \\\x7b"
  | .badInterval => "Invalid content of \\\x7b\\\x7d"
  | .badRange => "Invalid range end"
  | .badClass => "Invalid character class name"
  | .badReference => "Invalid back reference"
  | .backslash => "Trailing backslash"

def closeBracket : UInt8 := 0x5D

def upTo (mark : UInt8) : Bytes → Option (Bytes × Bytes)
  | [] => none
  | [_] => none
  | first :: second :: rest =>
      if first = mark && second = closeBracket then some ([], rest)
      else (upTo mark (second :: rest)).map fun (front, behind) => (first :: front, behind)

def rangeEnd? : Bytes → Except Trouble (Option (UInt8 × Bytes))
  | 0x2D :: 0x5B :: 0x2E :: rest =>
      match upTo 0x2E rest with
      | some ([byte], behind) => .ok (some (byte, behind))
      | _ => .error .badRange
  | 0x2D :: byte :: rest => if byte = closeBracket then .ok none else .ok (some (byte, rest))
  | _ => .ok none

def members : (steps : Nat) → (isFirst : Bool) → Bytes →
    Except Trouble (List (UInt8 × UInt8) × Bytes)
  | 0, _, _ => .error .bracket
  | steps + 1, isFirst, text =>
      let also (ranges : List (UInt8 × UInt8)) (rest : Bytes) :
          Except Trouble (List (UInt8 × UInt8) × Bytes) :=
        (members steps false rest).map fun (others, behind) => (ranges ++ others, behind)
      let from? (byte : UInt8) (rest : Bytes) :
          Except Trouble (List (UInt8 × UInt8) × Bytes) :=
        match rangeEnd? rest with
        | .error trouble => .error trouble
        | .ok none => also [(byte, byte)] rest
        | .ok (some (last, behind)) =>
            if last < byte then .error .badRange else also [(byte, last)] behind
      match text with
      | [] => .error .bracket
      | 0x5B :: 0x3A :: rest =>
          match upTo 0x3A rest with
          | none => .error .bracket
          | some (name, behind) =>
              match ByteSet.classes.lookup (Text.Utf8.lossy name) with
              | some ranges => also ranges behind
              | none => .error .badClass
      | 0x5B :: 0x2E :: rest =>
          match upTo 0x2E rest with
          | some ([byte], behind) => from? byte behind
          | some _ => .error .badRange
          | none => .error .bracket
      | 0x5B :: 0x3D :: rest =>
          match upTo 0x3D rest with
          | some ([byte], behind) => also [(byte, byte)] behind
          | some _ => .error .badRange
          | none => .error .bracket
      | byte :: rest =>
          if byte = closeBracket && !isFirst then .ok ([], rest) else from? byte rest

def bracket (text : Bytes) : Except Trouble (ByteSet × Bytes) :=
  let (isNegated, inside) :=
    match text with
    | 0x5E :: rest => (true, rest)
    | rest => (false, rest)
  (members (inside.length + 1) true inside).map fun (ranges, behind) =>
    ({ ranges := ranges, isNegated := isNegated }, behind)

def isDigit (byte : UInt8) : Bool :=
  0x30 ≤ byte && byte ≤ 0x39

def digitsValue (digits : Bytes) : Nat :=
  digits.foldl (fun value byte => 10 * value + (byte.toNat - 0x30)) 0

def bounds? (text : Bytes) : Option (Nat × Option Nat × Bytes) :=
  let (least, behind) := text.span isDigit
  match behind with
  | 0x2C :: rest =>
      let (most, after) := rest.span isDigit
      some (digitsValue least, if most.isEmpty then none else some (digitsValue most), after)
  | _ =>
      if least.isEmpty then none
      else some (digitsValue least, some (digitsValue least), behind)

def interval (closing text : Bytes) : Except Trouble (Token × Bytes) :=
  match bounds? text with
  | none => .error (if text.isEmpty then .openInterval else .badInterval)
  | some (least, most, behind) =>
      if closing.isPrefixOf behind then
        if most.any (· < least) then .error .badInterval
        else .ok (.times least most, behind.drop closing.length)
      else .error (if behind.isEmpty then .openInterval else .badInterval)

def escaped (byte : UInt8) : Regular :=
  match Char.ofNat byte.toNat with
  | 'w' => .one ByteSet.word
  | 'W' => .one ByteSet.word.negate
  | 's' => .one ByteSet.space
  | 'S' => .one ByteSet.space.negate
  | 'b' => .edge .wordEdge
  | 'B' => .edge .noWordEdge
  | '<' => .edge .wordStart
  | '>' => .edge .wordEnd
  | '\x60' => .edge .textStart
  | '\'' => .edge .textEnd
  | _ =>
      if isDigit byte && byte != 0x30 then .again (byte.toNat - 0x30) else .one (.single byte)

/-- The tokens of an expression. `isFront` says whether nothing that could be repeated stands
before. -/
def tokens (extended : Bool) : (steps : Nat) → (isFront : Bool) → Bytes →
    Except Trouble (List Token)
  | 0, _, _ => .ok []
  | steps + 1, isFront, text =>
      let also (token : Token) (front : Bool) (rest : Bytes) : Except Trouble (List Token) :=
        (tokens extended steps front rest).map (token :: ·)
      let plain (byte : UInt8) (rest : Bytes) := also (.item (.one (.single byte))) false rest
      let mark (letter : Char) (byte : UInt8) (rest : Bytes) : Except Trouble (List Token) :=
        match letter with
        | '(' => also .start true rest
        | ')' => also .finish false rest
        | '|' => also .bar true rest
        | '+' => also (.times 1 none) false rest
        | '?' => also (.times 0 (some 1)) false rest
        | '\x7b' =>
            if extended then
              match interval [0x7D] rest with
              | .ok (token, behind) => also token false behind
              | .error _ => plain byte rest
            else
              match interval [0x5C, 0x7D] rest with
              | .ok (token, behind) => also token false behind
              | .error trouble => .error trouble
        | _ => plain byte rest
      let isMark (letter : Char) : Bool := ['(', ')', '|', '+', '?', '\x7b'].contains letter
      match text with
      | [] => .ok []
      | byte :: rest =>
          match Char.ofNat byte.toNat with
          | '\\' =>
              match rest with
              | [] => .error .backslash
              | next :: behind =>
                  let letter := Char.ofNat next.toNat
                  if isMark letter then
                    if extended then plain next behind else mark letter next behind
                  else also (.item (escaped next)) false behind
          | '[' =>
              match bracket rest with
              | .error trouble => .error trouble
              | .ok (set, behind) => also (.item (.one set)) false behind
          | '.' => also (.item (.one ByteSet.everything)) false rest
          | '*' => if isFront && !extended then plain byte rest else also (.times 0 none) false rest
          | '^' =>
              if extended || isFront then also (.item (.edge .textStart)) true rest
              else plain byte rest
          | '$' =>
              let isLast :=
                rest.isEmpty || [0x5C, 0x29].isPrefixOf rest || [0x5C, 0x7C].isPrefixOf rest
              if extended || isLast then also (.item (.edge .textEnd)) false rest
              else plain byte rest
          | letter => if extended && isMark letter then mark letter byte rest else plain byte rest

/-- Where the reading stands: the tokens that are left, how many groups have begun, and whether a
mark that closes no group stands for itself. -/
structure Progress where
  left : List Token
  groups : Nat := 0
  isLenient : Bool := false

abbrev Step := Except Trouble (Regular × Progress)

def withTimes : Regular → List Token → Regular × List Token
  | item, .times least most :: rest => withTimes (.repeated least most item) rest
  | item, rest => (item, rest)

mutual

def alternatives : (steps : Nat) → (depth : Nat) → Progress → Step
  | 0, _, progress => .ok (.nothing, progress)
  | steps + 1, depth, progress =>
      match chain steps depth .nothing progress with
      | .error trouble => .error trouble
      | .ok (first, next) =>
          match next.left with
          | .bar :: rest =>
              (alternatives steps depth { next with left := rest }).map fun (second, last) =>
                (.either first second, last)
          | _ => .ok (first, next)

def chain : (steps : Nat) → (depth : Nat) → Regular → Progress → Step
  | 0, _, before, progress => .ok (before, progress)
  | steps + 1, depth, before, progress =>
      let also (item : Regular) (next : Progress) : Step :=
        let (whole, left) := withTimes item next.left
        chain steps depth (.sequence before whole) { next with left := left }
      match progress.left with
      | [] | .bar :: _ => .ok (before, progress)
      | .finish :: rest =>
          if 0 < depth then .ok (before, progress)
          else if progress.isLenient then also (.one (.single 0x29)) { progress with left := rest }
          else .error .closedGroup
      | .item item :: rest => also item { progress with left := rest }
      | .times _ _ :: rest => also .nothing { progress with left := rest }
      | .start :: rest =>
          let number := progress.groups + 1
          match alternatives steps (depth + 1) { progress with left := rest, groups := number } with
          | .error trouble => .error trouble
          | .ok (body, next) =>
              match next.left with
              | .finish :: behind => also (.group number body) { next with left := behind }
              | _ => .error .openGroup

end

def lastReference : Regular → Nat
  | .again number => number
  | .group _ body | .repeated _ _ body => lastReference body
  | .sequence first second | .either first second =>
      max (lastReference first) (lastReference second)
  | _ => 0

/-- The expression that a text stands for, in the extended or in the basic notation. -/
def readWith (isLenient extended : Bool) (text : Bytes) : Except Trouble Regular :=
  match tokens extended (text.length + 1) true text with
  | .error trouble => .error trouble
  | .ok found =>
      match alternatives (4 * found.length + 4) 0 { left := found, isLenient := isLenient } with
      | .error trouble => .error trouble
      | .ok (regular, progress) =>
          if progress.groups < lastReference regular then .error .badReference else .ok regular

def read : (extended : Bool) → (text : Bytes) → Except Trouble Regular :=
  readWith false

def ofText (text : Bytes) : Regular :=
  text.foldr (fun byte rest => .sequence (.one (.single byte)) rest) .nothing

def anyOf : List Regular → Option Regular
  | [] => none
  | [only] => some only
  | first :: rest =>
      match anyOf rest with
      | some others => some (.either first others)
      | none => some first

def between (front behind : Edge) (regular : Regular) : Regular :=
  .sequence (.edge front) (.sequence regular (.edge behind))

end Regular

end CompilerDriver.Machine
