import CompilerDriver.Path
import CompilerDriver.Text.Blank

/-!
A program and its ordered arguments, passed on byte for byte. The shown form quotes each word the
way a shell would need it, so that a shown command can be run again. Nothing here runs a command.
-/

namespace CompilerDriver

structure Command where
  program : Bytes
  arguments : List Bytes
  deriving Repr, DecidableEq, Inhabited

namespace Command

def words (command : Command) : List Bytes :=
  command.program :: command.arguments

def argv (command : Command) : List String :=
  command.words.map Text.Utf8.lossy

def append (command : Command) (arguments : List Bytes) : Command :=
  { command with arguments := command.arguments ++ arguments }

/-- Quote characters, expansions, patterns, braces, operators, comments, homes and history. -/
def specialChars : List Char :=
  ['\'', '"', '\\', '$', '\x60', '*', '?', '[', ']', '(', ')', '\x7b', '\x7d',
   '<', '>', '|', '&', ';', '#', '~', '!']

def isSpecial (char : Char) : Bool :=
  Text.isBlank char || specialChars.contains char

def needsQuotes (word : List Char) : Bool :=
  word.isEmpty || word.any isSpecial

/-- A single quote inside closes the quotes, stands escaped, and opens them again. -/
def quoteChar (char : Char) : List Char :=
  if char = '\'' then ['\'', '\\', '\'', '\''] else [char]

def quote (word : List Char) : List Char :=
  if needsQuotes word then '\'' :: (word.flatMap quoteChar ++ ['\'']) else word

def joinWords : List (List Char) → List Char
  | [] => []
  | [only] => only
  | first :: next :: rest => first ++ ' ' :: joinWords (next :: rest)

def renderWords (words : List (List Char)) : List Char :=
  joinWords (words.map quote)

def display (command : Command) : String :=
  String.ofList (renderWords (command.argv.map String.toList))

end CompilerDriver.Command
