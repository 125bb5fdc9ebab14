import CompilerDriver.Machine.Shell.Form

/-!
Patterns of the shell: a star for any run, a question mark for one unit, brackets for a set. A
quoted unit stands for itself. Text is compared unit by unit.
-/

namespace CompilerDriver.Machine.Shell

/-- A unit of an expanded word, and whether it was quoted. -/
structure Cell where
  unit : Char
  quoted : Bool
  deriving Repr, DecidableEq, Inhabited

def Cell.units (cells : List Cell) : Units :=
  cells.map Cell.unit

inductive Pattern.Kind where
  | alphanumeric
  | alphabetic
  | blank
  | control
  | digit
  | graphic
  | lower
  | printable
  | punctuation
  | space
  | upper
  | hexadecimal
  deriving Repr, DecidableEq, Inhabited

/-- A member of a set: a kind of units, or all units in a range. -/
inductive Pattern.Member where
  | kind (kind : Pattern.Kind)
  | range (first last : Char)
  deriving Repr, DecidableEq, Inhabited

inductive Pattern.Item where
  | exactly (unit : Char)
  | one
  | run
  | set (negated : Bool) (members : List Pattern.Member)
  deriving Repr, Inhabited

abbrev Pattern := List Pattern.Item

namespace Pattern

def Kind.all : List (String × Kind) :=
  [("alnum", .alphanumeric), ("alpha", .alphabetic), ("blank", .blank), ("cntrl", .control),
   ("digit", .digit), ("graph", .graphic), ("lower", .lower), ("print", .printable),
   ("punct", .punctuation), ("space", .space), ("upper", .upper), ("xdigit", .hexadecimal)]

def isGraphic (unit : Char) : Bool :=
  '!' ≤ unit && unit ≤ '~'

def Kind.covers (unit : Char) : Kind → Bool
  | .alphanumeric => unit.isAlphanum
  | .alphabetic => unit.isAlpha
  | .blank => unit == ' ' || unit == '\t'
  | .control => unit.toNat < 32 || unit.toNat == 127
  | .digit => unit.isDigit
  | .graphic => isGraphic unit
  | .lower => unit.isLower
  | .printable => unit == ' ' || isGraphic unit
  | .punctuation => isGraphic unit && !unit.isAlphanum
  | .space => unit == ' ' || ('\t' ≤ unit && unit ≤ '\r')
  | .upper => unit.isUpper
  | .hexadecimal => unit.isDigit || ('a' ≤ unit.toLower && unit.toLower ≤ 'f')

/-- The kind named behind a bracket inside a set, and what follows its closing signs. -/
def kind? (cells : List Cell) : Option (Kind × List Cell) :=
  Kind.all.findSome? fun entry =>
    let spelling := ':' :: entry.1.toList ++ [':', ']']
    let front := cells.take spelling.length
    if Cell.units front == spelling && front.all fun cell => !cell.quoted then
      some (entry.2, cells.drop spelling.length)
    else none

def rank (unit : Char) : Int :=
  if unit.toNat < 128 then unit.toNat else (unit.toNat : Int) - 256

def Member.covers (unit : Char) : Member → Bool
  | .kind found => found.covers unit
  | .range first last => rank first ≤ rank unit && rank unit ≤ rank last

/-- A cell of a set with what it stands for behind a backslash that no quotes protect. -/
def unescaped (cell : Cell) (rest : List Cell) : Cell × List Cell :=
  if cell.unit == '\\' && !cell.quoted then
    match rest with
    | next :: behind => ({ next with quoted := true }, behind)
    | [] => (cell, rest)
  else (cell, rest)

/-- The members between brackets, and the cells behind the closing one. A bracket that comes first
is a member. -/
def members : (steps : Nat) → (first : Bool) → List Cell → Option (List Member × List Cell)
  | 0, _, _ => none
  | steps + 1, first, cells =>
      let also (member : Member) (rest : List Cell) : Option (List Member × List Cell) :=
        (members steps false rest).map fun (others, left) => (member :: others, left)
      match cells with
      | [] => none
      | cell :: rest =>
          if cell.unit == ']' && !cell.quoted && !first then some ([], rest)
          else
            match if cell.unit == '[' && !cell.quoted then kind? rest else none with
            | some (kind, behind) => also (.kind kind) behind
            | none =>
                let (start, behind) := unescaped cell rest
                match behind with
                | dash :: last :: others =>
                    if dash.unit == '-' && !dash.quoted && !(last.unit == ']' && !last.quoted) then
                      let (stop, left) := unescaped last others
                      also (.range start.unit stop.unit) left
                    else also (.range start.unit start.unit) behind
                | _ => also (.range start.unit start.unit) behind

def set? (cells : List Cell) : Option (Item × List Cell) :=
  let (negated, inside) :=
    match cells with
    | { unit := '!', quoted := false } :: rest => (true, rest)
    | rest => (false, rest)
  (members (inside.length + 1) true inside).map fun (found, left) => (.set negated found, left)

def itemsFrom : (steps : Nat) → List Cell → Pattern
  | 0, _ => []
  | steps + 1, cells =>
      match cells with
      | [] => []
      | cell :: rest =>
          if cell.quoted then .exactly cell.unit :: itemsFrom steps rest
          else if cell.unit == '*' then .run :: itemsFrom steps rest
          else if cell.unit == '?' then .one :: itemsFrom steps rest
          else if cell.unit == '[' then
            match set? rest with
            | some (item, left) => item :: itemsFrom steps left
            | none => .exactly '[' :: itemsFrom steps rest
          else if cell.unit == '\\' then
            match rest with
            | next :: behind => .exactly next.unit :: itemsFrom steps behind
            | [] => [.exactly '\\']
          else .exactly cell.unit :: itemsFrom steps rest

def ofCells (cells : List Cell) : Pattern :=
  itemsFrom cells.length cells

def ends : Units → List Units
  | [] => [[]]
  | unit :: rest => (unit :: rest) :: ends rest

def covers : Pattern → Units → Bool
  | [], text => text.isEmpty
  | .run :: rest, text => (ends text).any (covers rest)
  | .exactly unit :: rest, text =>
      match text with
      | first :: others => first == unit && covers rest others
      | [] => false
  | .one :: rest, text =>
      match text with
      | _ :: others => covers rest others
      | [] => false
  | .set negated found :: rest, text =>
      match text with
      | first :: others => (found.any (Member.covers first) != negated) && covers rest others
      | [] => false

def isPlain (pattern : Pattern) : Bool :=
  pattern.all fun item =>
    match item with
    | .exactly _ => true
    | _ => false

def lengths (longest : Bool) (total : Nat) : List Nat :=
  if longest then (List.range (total + 1)).reverse else List.range (total + 1)

def trimStart (pattern : Pattern) (longest : Bool) (text : Units) : Units :=
  match (lengths longest text.length).find? fun count => covers pattern (text.take count) with
  | some count => text.drop count
  | none => text

def trimEnd (pattern : Pattern) (longest : Bool) (text : Units) : Units :=
  let total := text.length
  match (lengths longest total).find? fun count => covers pattern (text.drop (total - count)) with
  | some count => text.take (total - count)
  | none => text

end CompilerDriver.Machine.Shell.Pattern
