import CompilerDriver.Machine.Kernel.Files

/-!
The forms of a shell script, as they stand before anything is expanded. Words keep their quoting,
and a substituted script is a form inside a word.
-/

namespace CompilerDriver.Machine.Shell

/-- Script text read one byte at a time: each character stands for the byte with its code. -/
abbrev Units := List Char

def Units.ofBytes (bytes : Bytes) : Units :=
  bytes.map fun byte => Char.ofNat byte.toNat

def Units.toBytes (units : Units) : Bytes :=
  units.map fun unit => UInt8.ofNat unit.toNat

def Units.ofText (text : String) : Units :=
  Units.ofBytes (Bytes.ofText text)

def isNameStart (unit : Char) : Bool :=
  unit.isAlpha || unit == '_'

def isNameUnit (unit : Char) : Bool :=
  unit.isAlphanum || unit == '_'

def isName (bytes : Bytes) : Bool :=
  match Units.ofBytes bytes with
  | first :: rest => isNameStart first && rest.all isNameUnit
  | [] => false

/-- What an expansion does with the value of its parameter. A colon makes an empty value count as an
absent one. -/
inductive Treatment where
  | plain
  | length
  | orElse (colon : Bool)
  | assign (colon : Bool)
  | demand (colon : Bool)
  | instead (colon : Bool)
  | trimStart (longest : Bool)
  | trimEnd (longest : Bool)
  deriving Repr, DecidableEq, Inhabited

def Treatment.isTrim : Treatment → Bool
  | .trimStart _ | .trimEnd _ => true
  | _ => false

mutual

inductive Part where
  | literal (bytes : Bytes) (quoted : Bool)
  | parameter (name : Bytes) (treatment : Treatment) (word : List Part) (quoted : Bool)
  | substitution (script : Option Form) (quoted : Bool)
  | arithmetic (parts : List Part) (quoted : Bool)
  | malformed

/-- A redirection of a channel: to a file, to another channel, or to a text of the script. A forced
one replaces a file even where that has to be asked for. -/
inductive Redirect where
  | file (channel : Nat) (opening : Kernel.Opening) (forced : Bool) (target : List Part)
  | channel (channel : Nat) (target : List Part)
  | text (channel : Nat) (body : List Part)

inductive Form where
  | simple (line : Nat) (assignments : List (Bytes × List Part)) (words : List (List Part))
      (redirects : List Redirect)
  | redirected (line : Nat) (body : Form) (redirects : List Redirect)
  | pipeline (stages : List Form)
  | negated (body : Form)
  | both (left right : Form)
  | either (left right : Form)
  | sequence (first second : Form)
  | background (line : Nat) (body : Form)
  | subshell (line : Nat) (body : Form) (redirects : List Redirect)
  | branch (condition body : Form) (otherwise : Option Form)
  | loop (untilTrue : Bool) (condition body : Form)
  | each (line : Nat) (name : Bytes) (words : Option (List (List Part))) (body : Form)
  | choose (line : Nat) (word : List Part) (arms : List (List (List Part) × Option Form))
  | define (name : Bytes) (body : Form)

end

abbrev Word := List Part

instance : Inhabited Part := ⟨.malformed⟩

instance : Inhabited Form := ⟨.simple 0 [] [] []⟩

instance : Inhabited Redirect := ⟨.text 0 []⟩

namespace Word

def literal (units : Units) (quoted : Bool) : Part :=
  .literal units.toBytes quoted

def cons (part : Part) (word : Word) : Word :=
  match part, word with
  | .literal left false, .literal right false :: rest => .literal (left ++ right) false :: rest
  | .literal left true, .literal right true :: rest => .literal (left ++ right) true :: rest
  | part, word => part :: word

/-- A part of a word between double quotes. The quotes make a field even where nothing stands
between them, but not around the list of arguments alone, which may be empty. -/
def enclosed (inside : Word) : Word :=
  match inside with
  | [.parameter [0x40] .plain [] true] => inside
  | _ => literal [] true :: inside

def bare? : Word → Option Bytes
  | [.literal bytes false] => some bytes
  | _ => none

def isQuoted (word : Word) : Bool :=
  word.any fun part =>
    match part with
    | .literal _ quoted => quoted
    | _ => false

def plainText (word : Word) : Units :=
  word.flatMap fun part =>
    match part with
    | .literal bytes _ => Units.ofBytes bytes
    | _ => []

def assignment? (word : Word) : Option (Bytes × Word) :=
  match word with
  | .literal bytes false :: rest =>
      let units := Units.ofBytes bytes
      let (name, behind) := units.span isNameUnit
      match name, behind with
      | first :: _, '=' :: value =>
          if isNameStart first then
            some (Units.toBytes name,
              if value.isEmpty then rest else cons (literal value false) rest)
          else none
      | _, _ => none
  | _ => none

end Word

/-- A script that breaks off: what is wrong, on which line, and how much text is left. -/
structure Breakage where
  line : Nat
  left : Nat
  message : String
  deriving Repr, Inhabited

end CompilerDriver.Machine.Shell
