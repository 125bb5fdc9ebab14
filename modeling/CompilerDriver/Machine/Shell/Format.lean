import CompilerDriver.Machine.Floating
import CompilerDriver.Machine.Shell.Arithmetic

/-!
Formatted output: backslash escapes and percent conversions. A format is used again while arguments
are left, and missing arguments count as empty or zero.
-/

namespace CompilerDriver.Machine.Shell.Format

def isOctal (unit : Char) : Bool :=
  '0' ≤ unit && unit ≤ '7'

def octal (limit : Nat) (text : Units) : Char × Units :=
  let digits := (text.take limit).takeWhile isOctal
  (Char.ofNat (Arithmetic.inBase 8 digits % 256), text.drop digits.length)

def control? : Char → Option Char
  | 'a' => some (Char.ofNat 7)
  | 'b' => some (Char.ofNat 8)
  | 'e' => some (Char.ofNat 27)
  | 'f' => some (Char.ofNat 12)
  | 'n' => some '\n'
  | 'r' => some '\r'
  | 't' => some '\t'
  | 'v' => some (Char.ofNat 11)
  | '\\' => some '\\'
  | _ => none

def escape (text : Units) : Units × Units :=
  match text with
  | [] => (['\\'], [])
  | unit :: rest =>
      if isOctal unit then
        let (value, left) := octal 3 text
        ([value], left)
      else
        match control? unit with
        | some value => ([value], rest)
        | none => (['\\'], text)

/-- Text with its escapes replaced, and whether it asks for the end of all output. In this form an
octal escape starts with a zero that does not count. -/
def unescape : (steps : Nat) → Units → Units × Bool
  | 0, text => (text, false)
  | steps + 1, text =>
      match text with
      | [] => ([], false)
      | '\\' :: 'c' :: _ => ([], true)
      | '\\' :: '0' :: rest =>
          let (value, left) := octal 3 rest
          let (more, ends) := unescape steps left
          (value :: more, ends)
      | '\\' :: rest =>
          let (value, left) := escape rest
          let (more, ends) := unescape steps left
          (value ++ more, ends)
      | unit :: rest =>
          let (more, ends) := unescape steps rest
          (unit :: more, ends)

structure Spec where
  left : Bool := false
  zeros : Bool := false
  plus : Bool := false
  blank : Bool := false
  alternate : Bool := false
  width : Nat := 0
  precision : Option Nat := none

def flags : (steps : Nat) → Spec → Units → Spec × Units
  | 0, spec, text => (spec, text)
  | steps + 1, spec, text =>
      match text with
      | '-' :: rest => flags steps { spec with left := true } rest
      | '0' :: rest => flags steps { spec with zeros := true } rest
      | '+' :: rest => flags steps { spec with plus := true } rest
      | ' ' :: rest => flags steps { spec with blank := true } rest
      | '#' :: rest => flags steps { spec with alternate := true } rest
      | text => (spec, text)

/-- What is wrong with an argument or with the format. -/
inductive Complaint where
  | notNumeric (argument : Units)
  | cutShort (argument : Units)
  | outOfRange (argument : Units)
  | unknown (directive : Units)
  | unfinished
  deriving Repr, DecidableEq, Inhabited

def Complaint.isFatal : Complaint → Bool
  | .unknown _ | .unfinished => true
  | _ => false

def unitCode? (argument : Units) : Option Nat :=
  match argument with
  | '"' :: rest | '\'' :: rest => some ((rest.head?.map Char.toNat).getD 0)
  | _ => none

/-- What is wrong with an argument of which some is left over, or whose number does not fit. -/
def judge (argument behind : Units) (fits : Bool) : Option Complaint :=
  if !behind.isEmpty then
    some (if behind.length = argument.length then .notNumeric argument else .cutShort argument)
  else if fits then none
  else some (.outOfRange argument)

/-- The whole number that an argument spells, kept in range, with a complaint if it spells none or
more than one. -/
def number (isSigned : Bool) (argument : Units) : Int × Option Complaint :=
  match unitCode? argument with
  | some code => (code, none)
  | none =>
      let (negative, digits) := Arithmetic.signed (argument.dropWhile Arithmetic.isBlank)
      if !(digits.head?.any Char.isDigit) then (0, judge argument argument true)
      else
        let (size, behind) := Arithmetic.exactAt digits
        let value : Int := if negative then -size else size
        let least : Int := -(Arithmetic.largest : Int) - 1
        if isSigned then
          (max least (min Arithmetic.largest value),
            judge argument behind (least ≤ value && value ≤ Arithmetic.largest))
        else if Arithmetic.wordSize ≤ size then
          ((Arithmetic.wordSize - 1 : Nat), judge argument behind false)
        else (value, judge argument behind true)

def floating (argument : Units) : Floating × Option Complaint :=
  match unitCode? argument with
  | some code => (.ofNat code, none)
  | none =>
      match Floating.read? (argument.dropWhile Arithmetic.isBlank) with
      | none => (.ofNat 0, judge argument argument true)
      | some reading => (reading.value, judge argument reading.behind !reading.outOfRange)

/-- Arguments that are used up from the front, with the complaints about them. -/
structure Supply where
  arguments : List Units
  complaints : List Complaint := []

def Supply.next (supply : Supply) : Units × Supply :=
  (supply.arguments.headD [], { supply with arguments := supply.arguments.drop 1 })

def Supply.note (supply : Supply) (complaint : Option Complaint) : Supply :=
  { supply with complaints := supply.complaints ++ complaint.toList }

def amount (text : Units) (supply : Supply) : Int × Units × Supply :=
  match text with
  | '*' :: rest =>
      let (argument, left) := supply.next
      let (value, complaint) := number true argument
      (value, rest, left.note complaint)
  | _ =>
      let (digits, left) := text.span Char.isDigit
      (Arithmetic.inBase 10 digits, left, supply)

/-- Sets the width; a negative one pads on the right. -/
def Spec.withWidth (spec : Spec) (width : Int) : Spec :=
  { spec with left := spec.left || width < 0, width := width.natAbs }

/-- Sets the precision; a negative one counts as none. -/
def Spec.withPrecision (spec : Spec) (precision : Int) : Spec :=
  { spec with precision := if precision < 0 then none else some precision.toNat }

def pad (spec : Spec) (text : Units) : Units :=
  let missing := List.replicate (spec.width - text.length) ' '
  if spec.left then text ++ missing else missing ++ text

def padZeros (spec : Spec) (sign digits : Units) : Units :=
  let zeros :=
    if spec.zeros && !spec.left then spec.width - (sign.length + digits.length) else 0
  pad spec (sign ++ List.replicate zeros '0' ++ digits)

/-- Pads a whole number. A precision asks for a number of digits and overrules zeros. -/
def padNumber (spec : Spec) (sign digits : Units) : Units :=
  match spec.precision with
  | some count => pad spec (sign ++ List.replicate (count - digits.length) '0' ++ digits)
  | none => padZeros spec sign digits

def signOf (spec : Spec) (negative : Bool) : Units :=
  if negative then ['-'] else if spec.plus then ['+'] else if spec.blank then [' '] else []

/-- The digits of a whole number; a precision of zero shows none for zero. -/
def digitsIn (spec : Spec) (base value : Nat) : Units :=
  if value = 0 && spec.precision = some 0 then [] else Nat.toDigits base value

def signed (spec : Spec) (value : Int) : Units :=
  padNumber spec (signOf spec (value < 0)) (digitsIn spec 10 value.natAbs)

def unsignedIn (spec : Spec) (base : Nat) (value : Int) : Units :=
  let size := (value % Arithmetic.wordSize).toNat
  let digits := digitsIn spec base size
  if spec.alternate && base = 8 && digits.head? != some '0' then padNumber spec [] ('0' :: digits)
  else if spec.alternate && base = 16 && size != 0 then padNumber spec ['0', 'x'] digits
  else padNumber spec [] digits

def usualPrecision : Nat := 6

def withPoint (spec : Spec) (letter : Char) (value : Floating) : Units :=
  let precision := spec.precision.getD usualPrecision
  let sign := signOf spec value.isNegative
  match value with
  | .infinite _ => pad spec (sign ++ ['i', 'n', 'f'])
  | .undefined _ => pad spec (sign ++ ['n', 'a', 'n'])
  | .finite _ size =>
      match letter with
      | 'f' => padZeros spec sign (Floating.fixed spec.alternate precision size)
      | 'e' => padZeros spec sign (Floating.scientific spec.alternate precision size)
      | 'g' => padZeros spec sign (Floating.general spec.alternate precision size)
      | _ =>
          let digits := Floating.hexadecimal spec.alternate spec.precision size
          padZeros spec (sign ++ digits.take 2) (digits.drop 2)

structure Output where
  units : Units := []
  complaints : List Complaint := []
  /-- Whether nothing more is to be written. -/
  ends : Bool := false

/-- One conversion, behind its flags. Returns what it writes and what is left to use. -/
def convert (spec : Spec) (letter : Char) (supply : Supply) : Option (Units × Bool × Supply) :=
  let (argument, left) := supply.next
  let whole (isSigned : Bool) (write : Int → Units) : Option (Units × Bool × Supply) :=
    let (value, complaint) := number isSigned argument
    some (write value, false, left.note complaint)
  match letter with
  | 's' => some (pad spec (argument.take (spec.precision.getD argument.length)), false, left)
  | 'b' =>
      let (text, ends) := unescape (argument.length + 1) argument
      some (pad spec (text.take (spec.precision.getD text.length)), ends, left)
  | 'c' => some (pad spec [argument.headD (Char.ofNat 0)], false, left)
  | 'd' | 'i' => whole true (signed spec)
  | 'u' => whole false (unsignedIn spec 10)
  | 'o' => whole false (unsignedIn spec 8)
  | 'x' => whole false (unsignedIn spec 16)
  | 'X' => whole false fun value => (unsignedIn spec 16 value).map Char.toUpper
  | _ =>
      if ['a', 'e', 'f', 'g'].contains letter.toLower then
        let (value, complaint) := floating argument
        let shown := withPoint spec letter.toLower value
        some (if letter.isUpper then shown.map Char.toUpper else shown, false, left.note complaint)
      else none

def directive (text : Units) (arguments : List Units) :
    Spec × Supply × Option (Char × Units) :=
  let (flagged, afterFlags) := flags (text.length + 1) {} text
  let (width, afterWidth, left) := amount afterFlags { arguments := arguments }
  let sized := flagged.withWidth width
  let (spec, afterPrecision, last) :=
    match afterWidth with
    | '.' :: behind =>
        let (precision, more, others) := amount behind left
        (sized.withPrecision precision, more, others)
    | behind => (sized, behind, left)
  match afterPrecision with
  | letter :: behind => (spec, last, some (letter, behind))
  | [] => (spec, last, none)

/-- One pass over the format. Returns what it writes, the arguments left and whether it used any
conversion; an unknown conversion ends it. -/
def pass : (steps : Nat) → Units → List Units → Output × List Units × Bool
  | 0, _, arguments => ({}, arguments, false)
  | steps + 1, format, arguments =>
      let prepend (units : Units) (complaints : List Complaint) (used : Bool)
          (tail : Output × List Units × Bool) : Output × List Units × Bool :=
        ({ tail.1 with
           units := units ++ tail.1.units
           complaints := complaints ++ tail.1.complaints },
         tail.2.1, used || tail.2.2)
      match format with
      | [] => ({}, arguments, false)
      | '\\' :: rest =>
          let (value, left) := escape rest
          prepend value [] false (pass steps left arguments)
      | '%' :: '%' :: rest => prepend ['%'] [] false (pass steps rest arguments)
      | '%' :: rest =>
          match directive rest arguments with
          | (_, supply, none) =>
              ({ complaints := supply.complaints ++ [.unfinished], ends := true }, [], true)
          | (spec, supply, some (letter, behind)) =>
              match convert spec letter supply with
              | none =>
                  let shown := format.take (format.length - behind.length)
                  ({ complaints := supply.complaints ++ [.unknown shown], ends := true }, [], true)
              | some (units, ends, left) =>
                  if ends then
                    ({ units := units, complaints := left.complaints, ends := true }, [], true)
                  else
                    prepend units left.complaints true (pass steps behind left.arguments)
      | unit :: rest => prepend [unit] [] false (pass steps rest arguments)

def rounds : (steps : Nat) → Units → List Units → Output
  | 0, _, _ => {}
  | steps + 1, format, arguments =>
      let (front, left, used) := pass (format.length + 1) format arguments
      if front.ends || left.isEmpty || !used then front
      else
        let tail := rounds steps format left
        { tail with
          units := front.units ++ tail.units
          complaints := front.complaints ++ tail.complaints }

def format (template : Units) (arguments : List Units) : Output :=
  rounds (arguments.length + 1) template arguments

end CompilerDriver.Machine.Shell.Format
