/-!
Patterns that say which texts are wanted, as trees. A pattern can be matched if it nests no deeper
than `depthLimit` and asks at no place for more than the way its text is taken there allows. Taken
as bytes, a part may not match half a character. Taken as characters, for which there are no tables,
what hangs on their kinds cannot be told: digits, blanks and words, the edge of a word, and which
letters differ by their case only.
-/

namespace CompilerDriver.Text

namespace Expression

/-- A character that stands for itself. One given by two hexadecimal digits is a byte where text is
taken as bytes. -/
structure Literal where
  char : Char
  isByte : Bool := false
  deriving Repr, DecidableEq

inductive Switch where
  | caseless
  | manyLines
  | dotAll
  | swapped
  | characters
  | carriage
  | spaced
  deriving Repr, DecidableEq

abbrev Switches := List (Switch × Bool)

def Switches.setting (switches : Switches) (switch : Switch) (before : Bool) : Bool :=
  (switches.lookup switch).getD before

inductive Atom where
  | literal (literal : Literal)
  | dot
  | border
  | wordBorder
  | shorthand (isNegated : Bool)
  deriving Repr, DecidableEq

inductive Member where
  | literal (literal : Literal)
  | range (low high : Literal)
  | named (isNegated : Bool)
  | shorthand (isNegated : Bool)
  | union (members : List Member)
  | set (isNegated : Bool) (content : Member)
  | combined (first second : Member)

end Expression

inductive Expression where
  | atom (atom : Expression.Atom)
  | set (isNegated : Bool) (content : Expression.Member)
  | switches (switches : Expression.Switches)
  | repetition (repeated : Expression)
  | group (switches : Expression.Switches) (inner : Expression)
  | choice (branches : List Expression)
  | sequence (items : List Expression)

namespace Expression

mutual

def Member.depth : Member → Nat
  | .literal _ | .range _ _ | .named _ | .shorthand _ | .union [] => 0
  | .union (first :: rest) => 1 + max first.depth (Member.depthOfAll rest)
  | .set _ content => 1 + content.depth
  | .combined first second => 1 + max first.depth second.depth

def Member.depthOfAll : List Member → Nat
  | [] => 0
  | first :: rest => max first.depth (Member.depthOfAll rest)

end

mutual

/-- How many parts lie around the innermost part, itself counted unless it is indivisible. -/
def depth : Expression → Nat
  | .atom _ | .switches _ | .choice [] | .sequence [] => 0
  | .set _ content => 1 + content.depth
  | .repetition inner | .group _ inner => 1 + inner.depth
  | .choice (first :: rest) | .sequence (first :: rest) => 1 + max first.depth (depthOfAll rest)

def depthOfAll : List Expression → Nat
  | [] => 0
  | first :: rest => max first.depth (depthOfAll rest)

end

def depthLimit : Nat := 250

structure Taking where
  asCharacters : Bool := true
  ignoresCase : Bool := false
  deriving Repr, DecidableEq

def Taking.switched (taking : Taking) (given : Switches) : Taking :=
  { asCharacters := given.setting .characters taking.asCharacters
    ignoresCase := given.setting .caseless taking.ignoresCase }

def firstWideCode : Nat := 0x80

def Atom.fits (taking : Taking) : Atom → Bool
  | .literal found =>
      if taking.asCharacters then !taking.ignoresCase
      else !found.isByte || found.char.toNat < firstWideCode
  | .dot => taking.asCharacters
  | .border => true
  | .wordBorder => !taking.asCharacters
  | .shorthand isNegated => !taking.asCharacters && !isNegated

mutual

/-- Whether a set can be told. As bytes, it may hold only those that are characters. -/
def Member.fits (taking : Taking) : Member → Bool
  | .literal found =>
      if taking.asCharacters then !taking.ignoresCase else found.char.toNat < firstWideCode
  | .range low high =>
      if taking.asCharacters then !taking.ignoresCase
      else low.char.toNat < firstWideCode && high.char.toNat < firstWideCode
  | .named isNegated => if taking.asCharacters then !taking.ignoresCase else !isNegated
  | .shorthand isNegated => !taking.asCharacters && !isNegated
  | .union members => Member.fitAll taking members
  | .set isNegated content => (taking.asCharacters || !isNegated) && content.fits taking
  | .combined first second => first.fits taking && second.fits taking

def Member.fitAll (taking : Taking) : List Member → Bool
  | [] => true
  | first :: rest => first.fits taking && Member.fitAll taking rest

end

mutual

/-- How text is taken behind an expression, if the expression can be matched. Switches count to the
end of the group that they stand in. -/
def behind? (taking : Taking) : Expression → Option Taking
  | .atom found => if found.fits taking then some taking else none
  | .set isNegated content =>
      if (Member.set isNegated content).fits taking then some taking else none
  | .switches given => some (taking.switched given)
  | .repetition inner => inner.behind? taking
  | .group given inner => (inner.behind? (taking.switched given)).map fun _ => taking
  | .choice parts | .sequence parts => behindAll? taking parts

def behindAll? (taking : Taking) : List Expression → Option Taking
  | [] => some taking
  | first :: rest =>
      match first.behind? taking with
      | some next => behindAll? next rest
      | none => none

end

/-- Whether an expression can be matched. A text is taken as characters at first. -/
def isMatchable (expression : Expression) : Bool :=
  decide (expression.depth ≤ depthLimit) && (expression.behind? {}).isSome

end Expression

end CompilerDriver.Text
