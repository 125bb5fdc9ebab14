import CompilerDriver.Text.Alphanumeric
import CompilerDriver.Text.Blank
import CompilerDriver.Text.Expression

/-!
How a text is read as an expression. Every group and set must be closed, every repetition must
repeat something, and every escape must be a known one. Where the text is spaced, blanks and what
follows a number sign on its line count for nothing.

The texts hold no closing brace, so whatever an opening brace begins is never complete: a counted
repetition or a code in braces is an error. So is a category of characters, since there is no table
of them.
-/

namespace CompilerDriver.Text.Expression

/-- Drops blanks and remarks. -/
def dropBlanks : (isRemark : Bool) → List Char → List Char
  | _, [] => []
  | true, char :: rest => dropBlanks (char != '\n') rest
  | false, char :: rest =>
      if isBlank char then dropBlanks false rest
      else if char = '#' then dropBlanks true rest
      else char :: rest

def afterBlanks (isSpaced : Bool) (rest : List Char) : List Char :=
  if isSpaced then dropBlanks false rest else rest

/-- The character behind a hyphen in a set: blanks and a number sign before it do not count. -/
def coming? (isSpaced : Bool) (rest : List Char) : Option Char :=
  if isSpaced then
    match rest.dropWhile isBlank with
    | '#' :: after => (after.dropWhile isBlank).head?
    | after => after.head?
  else rest.head?

def hexValue? (char : Char) : Option Nat :=
  if char.isDigit then some (char.toNat - '0'.toNat)
  else if 'a' ≤ char && char ≤ 'f' then some (char.toNat - 'a'.toNat + 10)
  else if 'A' ≤ char && char ≤ 'F' then some (char.toNat - 'A'.toNat + 10)
  else none

def code? (isSpaced : Bool) : (count : Nat) → (code : Nat) → List Char → Option (Nat × List Char)
  | 0, code, rest => some (code, afterBlanks isSpaced rest)
  | count + 1, code, rest =>
      match afterBlanks isSpaced rest with
      | digit :: after =>
          match hexValue? digit with
          | some value => code? isSpaced count (16 * code + value) after
          | none => none
      | [] => none

def coded? (isSpaced : Bool) (count : Nat) (rest : List Char) : Option (Atom × List Char) :=
  match code? isSpaced count 0 rest with
  | some (code, after) =>
      if code < 0xD800 || (0xDFFF < code && code < 0x110000) then
        some (.literal { char := Char.ofNat code, isByte := count = 2 }, after)
      else none
  | none => none

def controls : List (Char × Char) :=
  [('a', '\x07'), ('f', '\x0c'), ('t', '\t'), ('n', '\n'), ('r', '\r'), ('v', '\x0b')]

def escapes : List (Char × Atom) :=
  [('A', .border), ('z', .border), ('b', .wordBorder), ('B', .wordBorder), ('<', .wordBorder),
   ('>', .wordBorder), ('d', .shorthand false), ('s', .shorthand false), ('w', .shorthand false),
   ('D', .shorthand true), ('S', .shorthand true), ('W', .shorthand true)]

/-- Reads what follows a backslash. Signs may always be escaped, letters and digits only if they
have a meaning then. -/
def escape? (isSpaced : Bool) : List Char → Option (Atom × List Char)
  | [] => none
  | 'x' :: rest => coded? isSpaced 2 rest
  | 'u' :: rest => coded? isSpaced 4 rest
  | 'U' :: rest => coded? isSpaced 8 rest
  | char :: rest =>
      match escapes.lookup char, controls.lookup char with
      | some found, _ => some (found, rest)
      | none, some control => some (.literal { char := control }, rest)
      | none, none =>
          if char.toNat < firstWideCode && !char.isAlphanum then
            some (.literal { char := char }, rest)
          else none

def Atom.literal? : Atom → Option Literal
  | .literal found => some found
  | _ => none

def Atom.member? : Atom → Option Member
  | .literal found => some (.literal found)
  | .shorthand isNegated => some (.shorthand isNegated)
  | _ => none

def Member.ofList : List Member → Member
  | [member] => member
  | members => .union members

def piece? (isSpaced : Bool) : List Char → Option (Atom × List Char)
  | [] => none
  | '\\' :: rest => escape? isSpaced rest
  | char :: rest => some (.literal { char := char }, rest)

def range? (isSpaced : Bool) (rest : List Char) : Option (Member × List Char) := do
  let (first, after) ← piece? isSpaced rest
  let after := afterBlanks isSpaced after
  match after with
  | '-' :: behind =>
      let next := coming? isSpaced behind
      if next == some ']' || next == some '-' then return (← first.member?, after)
      else
        let (last, left) ← piece? isSpaced (afterBlanks isSpaced behind)
        let low ← first.literal?
        let high ← last.literal?
        if low.char ≤ high.char then return (.range low high, left) else none
  | _ => return (← first.member?, after)

def classNames : List String :=
  ["alnum", "alpha", "ascii", "blank", "cntrl", "digit", "graph", "lower", "print", "punct",
   "space", "upper", "word", "xdigit"]

def class? : List Char → Option (Member × List Char)
  | ':' :: rest =>
      let isNegated := rest.head? == some '^'
      let (name, behind) := (if isNegated then rest.drop 1 else rest).span (· != ':')
      match behind with
      | ':' :: ']' :: after =>
          if classNames.contains (String.ofList name) then some (.named isNegated, after) else none
      | _ => none
  | _ => none

/-- The hyphens that a set begins with, and what follows them. -/
def hyphens (isSpaced : Bool) : (steps : Nat) → List Char → List Member × List Char
  | steps + 1, '-' :: rest =>
      let (others, after) := hyphens isSpaced steps (afterBlanks isSpaced rest)
      (.literal { char := '-' } :: others, after)
  | _, rest => ([], rest)

/-- The beginning of a set, of which the bracket has been read: a circumflex, hyphens, or a closing
bracket in first place, which is a member. -/
def opening (isSpaced : Bool) (rest : List Char) : Bool × List Member × List Char :=
  let rest := afterBlanks isSpaced rest
  let isNegated := rest.head? == some '^'
  let rest := if isNegated then afterBlanks isSpaced (rest.drop 1) else rest
  let (members, rest) := hyphens isSpaced rest.length rest
  match members, rest with
  | [], ']' :: after => (isNegated, [.literal { char := ']' }], after)
  | members, rest => (isNegated, members, rest)

def joined (earlier : Option Member) (members : List Member) : Member :=
  match earlier with
  | some first => .combined first (Member.ofList members)
  | none => Member.ofList members

/-- Reads a set to its closing bracket. What stands before an operator has been read already, and
so have the members behind it, the latest of which come first. -/
def content? (isSpaced : Bool) : (steps : Nat) → (earlier : Option Member) → List Member →
    List Char → Option (Member × List Char)
  | 0, _, _, _ => none
  | steps + 1, earlier, members, rest =>
      match afterBlanks isSpaced rest with
      | [] => none
      | ']' :: after => some (joined earlier members.reverse, after)
      | '[' :: after =>
          match class? after with
          | some (member, behind) => content? isSpaced steps earlier (member :: members) behind
          | none =>
              let (isNegated, first, behind) := opening isSpaced after
              match content? isSpaced steps none first.reverse behind with
              | some (inner, left) =>
                  content? isSpaced steps earlier (.set isNegated inner :: members) left
              | none => none
      | '&' :: '&' :: after | '-' :: '-' :: after | '~' :: '~' :: after =>
          content? isSpaced steps (some (joined earlier members.reverse)) [] after
      | rest =>
          match range? isSpaced rest with
          | some (member, after) => content? isSpaced steps earlier (member :: members) after
          | none => none

def switchLetters : List (Char × Switch) :=
  [('i', .caseless), ('m', .manyLines), ('s', .dotAll), ('U', .swapped), ('u', .characters),
   ('R', .carriage), ('x', .spaced)]

/-- Reads letters as switches, each at most once; those behind a hyphen are set to off. -/
def switches? (isOn : Bool) (earlier : Switches) : List Char → Option Switches
  | [] => some earlier.reverse
  | '-' :: rest => if isOn && !rest.isEmpty then switches? false earlier rest else none
  | letter :: rest =>
      match switchLetters.lookup letter with
      | some switch =>
          if (earlier.lookup switch).isSome then none
          else switches? isOn ((switch, isOn) :: earlier) rest
      | none => none

def isGroupName : List Char → Bool
  | [] => false
  | first :: rest =>
      (first == '_' || isAlphabetic first) &&
        rest.all fun char => isAlphanumeric char || "_.[]".toList.contains char

structure Frame where
  branches : List Expression
  items : List Expression
  isSpaced : Bool
  switches : Switches

/-- What has been read of the innermost open group, the latest first, and the groups around it. -/
structure Progress where
  branches : List Expression := []
  items : List Expression := []
  isSpaced : Bool := false
  frames : List Frame := []
  names : List (List Char) := []

namespace Progress

def push (progress : Progress) (expression : Expression) : Progress :=
  { progress with items := expression :: progress.items }

def branch (progress : Progress) : Expression :=
  match progress.items with
  | [item] => item
  | items => .sequence items.reverse

def whole (progress : Progress) : Expression :=
  match progress.branches with
  | [] => progress.branch
  | branches => .choice (progress.branch :: branches).reverse

def enter (progress : Progress) (switches : Switches) : Progress :=
  { progress with
    branches := []
    items := []
    isSpaced := switches.setting .spaced progress.isSpaced
    frames :=
      { branches := progress.branches, items := progress.items, isSpaced := progress.isSpaced,
        switches := switches } :: progress.frames }

def leave? (progress : Progress) : Option Progress :=
  match progress.frames with
  | [] => none
  | frame :: frames =>
      some
        { progress with
          branches := frame.branches
          items := .group frame.switches progress.whole :: frame.items
          isSpaced := frame.isSpaced
          frames := frames }

/-- Repeats the latest item. Nothing, or switches, cannot be repeated. -/
def repeat? (progress : Progress) : Option Progress :=
  match progress.items with
  | [] | .switches _ :: _ => none
  | item :: items => some { progress with items := .repetition item :: items }

end Progress

def named? (progress : Progress) (rest : List Char) : Option (Progress × List Char) :=
  let (name, behind) := rest.span (· != '>')
  if behind.isEmpty || !isGroupName name || progress.names.contains name then none
  else some ({ progress.enter [] with names := name :: progress.names }, behind.drop 1)

/-- Reads what follows an opening parenthesis. No group looks around itself. -/
def opened? (progress : Progress) (rest : List Char) : Option (Progress × List Char) :=
  match afterBlanks progress.isSpaced rest with
  | '?' :: '!' :: _ | '?' :: '=' :: _ | '?' :: '<' :: '!' :: _ | '?' :: '<' :: '=' :: _ => none
  | '?' :: 'P' :: '<' :: rest | '?' :: '<' :: rest => named? progress rest
  | '?' :: rest =>
      let (letters, behind) := rest.span fun char => char != ':' && char != ')'
      match switches? true [] letters, behind with
      | some given, ':' :: after => some (progress.enter given, after)
      | some given, ')' :: after =>
          if given.isEmpty then none
          else
            some
              ({ progress.push (.switches given) with
                  isSpaced := given.setting .spaced progress.isSpaced }, after)
      | _, _ => none
  | rest => some (progress.enter [], rest)

def item? (progress : Progress) : List Char → Option (Progress × List Char)
  | [] => none
  | '(' :: rest => opened? progress rest
  | ')' :: rest => progress.leave?.map fun outer => (outer, rest)
  | '|' :: rest =>
      some ({ progress with branches := progress.branch :: progress.branches, items := [] }, rest)
  | '[' :: rest =>
      let (isNegated, members, behind) := opening progress.isSpaced rest
      (content? progress.isSpaced (behind.length + 1) none members.reverse behind).map
        fun (content, after) => (progress.push (.set isNegated content), after)
  | '?' :: rest | '*' :: rest | '+' :: rest =>
      progress.repeat?.map fun repeated =>
        (repeated, if rest.head? == some '?' then rest.drop 1 else rest)
  | '\x7b' :: _ => none
  | '\\' :: rest =>
      (escape? progress.isSpaced rest).map fun (found, after) =>
        (progress.push (.atom found), after)
  | '.' :: rest => some (progress.push (.atom .dot), rest)
  | '^' :: rest | '$' :: rest => some (progress.push (.atom .border), rest)
  | char :: rest => some (progress.push (.atom (.literal { char := char })), rest)

def readFrom? : (steps : Nat) → Progress → List Char → Option Expression
  | 0, _, _ => none
  | steps + 1, progress, rest =>
      match afterBlanks progress.isSpaced rest with
      | [] => if progress.frames.isEmpty then some progress.whole else none
      | rest =>
          match item? progress rest with
          | some (next, after) => readFrom? steps next after
          | none => none

def read? (text : List Char) : Option Expression :=
  readFrom? (text.length + 1) {} text

end CompilerDriver.Text.Expression
