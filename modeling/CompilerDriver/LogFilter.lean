import CompilerDriver.Text.Blank
import CompilerDriver.Text.Expression.Reading
import CompilerDriver.World

/-!
Which log records are wanted. A filter is a list of directives between commas. A directive is a
level, a target, or a target with a level; behind the target it may name, in brackets, a span and a
field of it, and the field may be asked to have a value.

A directive about a span or about a value looks at spans only. The others decide about a record: of
those whose target begins the name of the record's source, and whose field is one of the record's
fields, the one with the longest target counts, and of equal ones the one with a field. A record
that none speaks about is not wanted.
-/

namespace CompilerDriver

/-- How much is wanted: nothing, or everything up to a depth of detail. -/
abbrev LogFilter.Detail := Nat

structure LogFilter.Field where
  name : List Char
  hasValue : Bool
  deriving Repr, DecidableEq

structure LogFilter.Directive where
  target : Option (List Char) := none
  span : Option (List Char) := none
  field : Option LogFilter.Field := none
  detail : LogFilter.Detail
  deriving Repr, DecidableEq

abbrev LogFilter := List LogFilter.Directive

namespace LogFilter

def errorDetail : Detail := 1

def debugDetail : Detail := 4

def traceDetail : Detail := 5

/-- The words for the depths of detail, in small letters. Nothing at all means errors. -/
def levelWords : List (String × Detail) :=
  [("off", 0), ("error", 1), ("warn", 2), ("info", 3), ("debug", 4), ("trace", 5), ("", 1)]

def number? (word : List Char) : Option Nat :=
  let digits := if word.head? = some '+' then word.drop 1 else word
  if !digits.isEmpty && digits.all Char.isDigit then
    some (digits.foldl (fun value digit => 10 * value + (digit.toNat - '0'.toNat)) 0)
  else none

def level? (word : List Char) : Option Detail :=
  match number? word with
  | some value => if value ≤ traceDetail then some value else none
  | none => levelWords.lookup (String.ofList (word.map Char.toLower))

def levelBehind? (word : List Char) : Option Detail :=
  if word.isEmpty then some traceDetail else level? word

def levelOrTarget (word : List Char) : Directive :=
  match level? word with
  | some detail => { detail := detail }
  | none => { target := some word, detail := traceDetail }

/-- A number with a sign, a point or an exponent, or a word for what is no number. -/
def isDecimal (word : List Char) : Bool :=
  let word := if word.head? = some '+' || word.head? = some '-' then word.drop 1 else word
  let (mantissa, behind) := word.span fun char => char != 'e' && char != 'E'
  let (whole, fraction) := mantissa.span (· != '.')
  let fraction := fraction.drop 1
  let exponent := behind.drop 1
  let exponent :=
    if exponent.head? = some '+' || exponent.head? = some '-' then exponent.drop 1 else exponent
  ["inf", "infinity", "nan"].contains (String.ofList (word.map Char.toLower)) ||
    ((!whole.isEmpty || !fraction.isEmpty) && whole.all Char.isDigit && fraction.all Char.isDigit &&
      (behind.isEmpty || (!exponent.isEmpty && exponent.all Char.isDigit)))

/-- A field with the value it must have, which is a truth value, a number or an expression. What
stands behind a second equals sign does not count. -/
def field? (word : List Char) : Option Field :=
  let (name, behind) := word.span (· != '=')
  let value := (behind.drop 1).takeWhile (· != '=')
  if word.isEmpty then none
  else if behind.isEmpty then some { name := name, hasValue := false }
  else if isDecimal value || (Text.Expression.read? value).any Text.Expression.isMatchable then
    some { name := name, hasValue := true }
  else none

/-- Where the reading of a directive stands. The numbers say at which byte the part being read
began. -/
inductive Place where
  | front
  | word (start : Nat)
  | span (start : Nat)
  | field (start : Nat)
  | fields
  | behind
  | level (start : Nat)
  deriving Repr, DecidableEq

def isFirst (char : Char) : Bool :=
  char == '-' || char == ':' || char == '_' || Text.isAlphanumeric char

def takeBytes : List Char → (count : Nat) → List Char
  | [], _ | _, 0 => []
  | char :: rest, count => char :: takeBytes rest (count - char.utf8Size)

def dropBytes : List Char → (count : Nat) → List Char
  | [], _ => []
  | text, 0 => text
  | char :: rest, count => dropBytes rest (count - char.utf8Size)

def cut (text : List Char) (start stop : Nat) : List Char :=
  dropBytes (takeBytes text stop) start

def step (text : List Char) (offset : Nat) (char : Char) :
    Place × Directive → Option (Place × Directive)
  | (.front, draft) =>
      if char = '[' then some (.span (offset + 1), draft)
      else if isFirst char then some (.word offset, draft)
      else none
  | (.word start, draft) =>
      let named := { draft with target := some (cut text start offset) }
      if char = '=' then some (.level (offset + 1), named)
      else if char = '[' then some (.span (offset + 1), named)
      else some (.word start, draft)
  | (.span start, draft) =>
      let name := cut text start offset
      if char = ']' then some (.behind, { draft with span := some name })
      else if char = '\x7b' then
        some (.field (offset + 1),
          { draft with span := if name.isEmpty then none else some name })
      else some (.span start, draft)
  | (.field start, draft) =>
      if char = '\x7d' then
        (field? (cut text start offset)).map fun field =>
          (.fields, { draft with field := some field })
      else some (.field start, draft)
  | (.fields, draft) => if char = ']' then some (.behind, draft) else none
  | (.behind, draft) => if char = '=' then some (.level (offset + 1), draft) else none
  | (.level start, draft) => some (.level start, draft)

def steps (text : List Char) (offset : Nat) :
    List Char → Place × Directive → Option (Place × Directive)
  | [], state => some state
  | char :: rest, state =>
      (step text offset char state).bind (steps text (offset + char.utf8Size) rest)

def complete? (text : List Char) : Place × Directive → Option Directive
  | (.word start, _) => some (levelOrTarget (dropBytes text start))
  | (.level start, draft) =>
      (levelBehind? (dropBytes text start)).map fun detail => { draft with detail := detail }
  | (.behind, draft) => some draft
  | _ => none

/-- One directive. Blanks around it do not count when it is taken apart, but the parts are cut, at
the same distances, out of the text that still has them: a directive with a blank in front is one
about another target. -/
def directive? (text : List Char) : Option Directive :=
  let trimmed := (Text.trimEnd (String.ofList (text.dropWhile Text.isBlank))).toList
  (steps text 0 trimmed (.front, { detail := traceDetail })).bind (complete? text)

def splitCommas : List Char → List (List Char)
  | [] => [[]]
  | char :: rest =>
      if char = ',' then [] :: splitCommas rest
      else
        match splitCommas rest with
        | [] => [[char]]
        | first :: others => (char :: first) :: others

/-- An empty filter wants errors only; one with a bad directive is no filter. -/
def parse? (text : String) : Option LogFilter :=
  let words := (splitCommas text.toList).filter fun word => !word.isEmpty
  if words.isEmpty then some [{ detail := errorDetail }] else words.mapM directive?

structure Record where
  source : String
  fields : List String
  deriving Repr, DecidableEq

namespace Directive

def isPlain (directive : Directive) : Bool :=
  directive.span.isNone && !(directive.field.any Field.hasValue)

def fits (directive : Directive) (record : Record) : Bool :=
  (directive.target.getD []).isPrefixOf record.source.toList &&
    directive.field.all fun field => record.fields.contains (String.ofList field.name)

/-- How much a directive asks for: first by its target, then by its field. -/
def weight (directive : Directive) : Nat × Nat × List Char :=
  ((directive.target.map fun target => target.length + 1).getD 0,
    if directive.field.isSome then 1 else 0,
    (directive.field.map Field.name).getD [])

def outweighs (directive other : Directive) : Bool :=
  let (length, fields, name) := directive.weight
  let (otherLength, otherFields, otherName) := other.weight
  otherLength < length ||
    (otherLength == length &&
      (otherFields < fields || (otherFields == fields && decide (otherName < name))))

end Directive

/-- The detail wanted of a record: of equal directives the last one counts. -/
def detailFor (filter : LogFilter) (record : Record) : Detail :=
  let fitting := filter.filter fun directive => directive.isPlain && directive.fits record
  let best := fitting.foldl
    (fun best directive =>
      match best with
      | some other => if Directive.outweighs other directive then some other else some directive
      | none => some directive)
    none
  (best.map Directive.detail).getD 0

/-- The filter of an invocation: the one in the environment, if there is one, else the usual one. -/
def choose (given : Option Bytes) (usual : String) : LogFilter :=
  let fallback := (parse? usual).getD []
  match given.bind Text.Utf8.decode? with
  | some text => (parse? text).getD fallback
  | none => fallback

def wantsDebug (filter : LogFilter) (record : Record) : Bool :=
  debugDetail ≤ filter.detailFor record

end CompilerDriver.LogFilter
