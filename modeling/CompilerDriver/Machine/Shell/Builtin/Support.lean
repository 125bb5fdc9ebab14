import CompilerDriver.Machine.Shell.Act

/-!
What the commands of the shell itself share: reading their options, printing, and quoting what they
print. A command takes its words without its name and comes to a status.
-/

namespace CompilerDriver.Machine.Shell.Builtin

open Act

abbrev Action := List Bytes → Act Nat

def shown (word : Bytes) : String :=
  Text.Utf8.lossy word

/-- An option: its letter and the word that belongs to it. -/
structure Given where
  letter : UInt8
  word : Bytes := []
  deriving Repr, Inhabited

/-- The letters of a word, each looked up in the options there are; a colon behind a letter asks for
a word. -/
def lettersOf (allowed : Bytes) : Bytes → List Bytes → Except Bytes (List Given × List Bytes)
  | [], rest => .ok ([], rest)
  | letter :: more, rest =>
      if letter == 0x3A || !allowed.contains letter then
        .error (Bytes.ofText "Illegal option -" ++ [letter])
      else if (allowed.dropWhile (· != letter)).drop 1 |>.head? |>.any (· == 0x3A) then
        match more, rest with
        | [], [] =>
            .error (Bytes.ofText "No arg for -" ++ letter :: Bytes.ofText " option")
        | [], word :: others => .ok ([{ letter := letter, word := word }], others)
        | _, _ => .ok ([{ letter := letter, word := more }], rest)
      else
        (lettersOf allowed more rest).map fun (given, left) => ({ letter := letter } :: given, left)

/-- The options at the front of the words, and the words behind them. Two minus signs end them, and
a single one is no option. -/
def optionsOf (allowed : Bytes) :
    (steps : Nat) → List Bytes → Except Bytes (List Given × List Bytes)
  | 0, words => .ok ([], words)
  | steps + 1, words =>
      match words with
      | [0x2D, 0x2D] :: rest => .ok ([], rest)
      | (0x2D :: letter :: more) :: rest =>
          match lettersOf allowed (letter :: more) rest with
          | .error message => .error message
          | .ok (given, left) =>
              (optionsOf allowed steps left).map fun (others, last) => (given ++ others, last)
      | _ => .ok ([], words)

def takeOptions (allowed : String) (words : List Bytes) : Act (List Given × List Bytes) :=
  match optionsOf (Bytes.ofText allowed) (words.length + 1) words with
  | .ok taken => pure taken
  | .error message => fail message

def has (letter : Char) (given : List Given) : Bool :=
  given.any fun option => option.letter.toNat == letter.toNat

/-- Writes to standard output. That nobody takes it is complained about. -/
def print (bytes : Bytes) : Act Nat := do
  if bytes.isEmpty then return 0
  match ← run (Kernel.Proc.write 1 bytes) with
  | .ok _ => return 0
  | .error _ =>
      complain (((← get).command.getD []) ++ Bytes.ofText ": I/O error")
      return 1

def printText (text : String) : Act Nat :=
  print (Bytes.ofText text)

/-- Runs of other bytes than a quote in single quotes, and runs of quotes in double ones. -/
def quotedFrom : (steps : Nat) → Bytes → Bytes
  | 0, _ => []
  | steps + 1, bytes =>
      let (front, behind) := bytes.span (· != 0x27)
      let (quotes, rest) := behind.span (· == 0x27)
      let shown := 0x27 :: front ++ [0x27]
      if quotes.isEmpty then shown
      else
        shown ++ 0x22 :: quotes ++ [0x22] ++ (if rest.isEmpty then [] else quotedFrom steps rest)

def quoted (bytes : Bytes) : Bytes :=
  quotedFrom (bytes.length + 1) bytes

def illegalNumber {α : Type} (word : Bytes) : Act α :=
  fail (Bytes.ofText "Illegal number: " ++ word)

def count (word : Bytes) : Act Nat :=
  match Arithmetic.count? word with
  | some number => pure number
  | none => illegalNumber word

end CompilerDriver.Machine.Shell.Builtin
