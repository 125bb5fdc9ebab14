import CompilerDriver.Machine.Program.Support

/-!
Options in the words of a program: letters behind one minus sign, and names behind two, which may be
cut short. Unless a program wants them in front, options may stand between other words.
-/

namespace CompilerDriver.Machine.Program.Options

/-- Whether an option has a word that belongs to it. -/
inductive Operand where
  | none
  | required
  | optional
  deriving Repr, DecidableEq, Inhabited

/-- A name of an option, and the letter that means the same. -/
structure Named where
  name : String
  operand : Operand := .none
  letter : Char

structure Table where
  letters : List (Char × Operand) := []
  names : List Named := []
  /-- Whether the first other word ends the options. -/
  inFront : Bool := false
  /-- Words that are no options although they begin with a minus sign. -/
  isOperand : Bytes → Bool := fun _ => false

structure Given where
  letter : Char
  word : Option Bytes := none
  deriving Inhabited

abbrev Result := Except Bytes (List Given × List Bytes)

def unit (byte : UInt8) : Char :=
  Char.ofNat byte.toNat

def ofLetters (table : Table) : Bytes → List Bytes → Except Bytes (List Given × List Bytes)
  | [], rest => .ok ([], rest)
  | byte :: more, rest =>
      let letter := unit byte
      match table.letters.lookup letter with
      | none => .error (Bytes.ofText "invalid option -- '" ++ [byte, 0x27])
      | some .none =>
          (ofLetters table more rest).map fun (given, left) => ({ letter := letter } :: given, left)
      | some .optional =>
          .ok ([{ letter := letter, word := if more.isEmpty then none else some more }], rest)
      | some .required =>
          match more, rest with
          | [], [] => .error (Bytes.ofText "option requires an argument -- '" ++ [byte, 0x27])
          | [], word :: others => .ok ([{ letter := letter, word := some word }], others)
          | _, _ => .ok ([{ letter := letter, word := some more }], rest)

def quotedName (name : String) : String :=
  "'--" ++ name ++ "'"

def find (table : Table) (name : String) : Except Bytes Named :=
  match table.names.find? fun named => named.name == name with
  | some named => .ok named
  | none =>
      let found := table.names.filter fun named => name.isPrefixOf named.name
      match found with
      | [] => .error (Bytes.ofText ("unrecognized option " ++ quotedName name))
      | first :: rest =>
          let isSame (other : Named) : Bool :=
            other.letter == first.letter && other.operand == first.operand
          if rest.all isSame then .ok first
          else
            .error <| Bytes.ofText <|
              "option " ++ quotedName name ++ " is ambiguous; possibilities:" ++
                String.join (found.map fun named => " " ++ quotedName named.name)

def ofName (table : Table) (word : Bytes) (rest : List Bytes) :
    Except Bytes (List Given × List Bytes) :=
  let (name, behind) := word.span (· != 0x3D)
  let value := if behind.isEmpty then none else some (behind.drop 1)
  match find table (Text.Utf8.lossy name) with
  | .error message => .error message
  | .ok named =>
      match named.operand, value, rest with
      | .none, some _, _ =>
          .error (Bytes.ofText ("option " ++ quotedName named.name ++ " doesn't allow an argument"))
      | .required, none, [] =>
          .error (Bytes.ofText ("option " ++ quotedName named.name ++ " requires an argument"))
      | .required, none, word :: others =>
          .ok ([{ letter := named.letter, word := some word }], others)
      | _, _, _ => .ok ([{ letter := named.letter, word := value }], rest)

def takeFrom (table : Table) : (steps : Nat) → List Bytes → Result
  | 0, words => .ok ([], words)
  | steps + 1, words =>
      let also (taken : Except Bytes (List Given × List Bytes)) : Result :=
        match taken with
        | .error message => .error message
        | .ok (given, rest) =>
            (takeFrom table steps rest).map fun (others, left) => (given ++ others, left)
      let operand (word : Bytes) (rest : List Bytes) : Result :=
        if table.inFront then .ok ([], word :: rest)
        else (takeFrom table steps rest).map fun (given, left) => (given, word :: left)
      match words with
      | [] => .ok ([], [])
      | [0x2D, 0x2D] :: rest => .ok ([], rest)
      | (0x2D :: 0x2D :: name) :: rest => also (ofName table name rest)
      | (0x2D :: letter :: more) :: rest =>
          if table.isOperand (0x2D :: letter :: more) then operand (0x2D :: letter :: more) rest
          else also (ofLetters table (letter :: more) rest)
      | word :: rest => operand word rest

def take (table : Table) (words : List Bytes) : Result :=
  takeFrom table (words.length + 1) words

def has (letter : Char) (given : List Given) : Bool :=
  given.any fun option => option.letter == letter

def word? (letter : Char) (given : List Given) : Option Bytes :=
  ((given.filter fun option => option.letter == letter).getLast?).bind Given.word

def last? (letters : List Char) (given : List Given) : Option Given :=
  (given.filter fun option => letters.contains option.letter).getLast?

def plain (letters : String) : List (Char × Operand) :=
  letters.toList.map fun letter => (letter, .none)

def withOptions (call : Call) (table : Table) (status : Nat)
    (action : List Given → List Bytes → Kernel.Proc Nat) : Kernel.Proc Nat :=
  match take table call.arguments with
  | .ok (given, words) => action given words
  | .error message => refuse call status message

end CompilerDriver.Machine.Program.Options
