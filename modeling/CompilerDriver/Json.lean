/-!
Values of the JSON format, written compactly or with an indent of two blanks a level. Fields keep
the order they are given in. Only quotes, backslashes and the control characters below the blank
are escaped.
-/

namespace CompilerDriver

inductive Json where
  | null
  | boolean (value : Bool)
  | number (value : Int)
  | text (value : String)
  | array (items : List Json)
  | object (fields : List (String × Json))
  deriving Repr, Inhabited

namespace Json

def hexDigit (value : Nat) : Char :=
  if value < 10 then Char.ofNat (48 + value) else Char.ofNat (87 + value)

def escapeChar (char : Char) : List Char :=
  if char = '"' then ['\\', '"']
  else if char = '\\' then ['\\', '\\']
  else if char = '\x08' then ['\\', 'b']
  else if char = '\x0c' then ['\\', 'f']
  else if char = '\n' then ['\\', 'n']
  else if char = '\r' then ['\\', 'r']
  else if char = '\t' then ['\\', 't']
  else if char.toNat < 0x20 then
    ['\\', 'u', '0', '0', hexDigit (char.toNat / 16), hexDigit (char.toNat % 16)]
  else [char]

def quoted (value : String) : List Char :=
  '"' :: (value.toList.flatMap escapeChar ++ ['"'])

def digits (value : Int) : List Char :=
  match value with
  | .ofNat magnitude => Nat.toDigits 10 magnitude
  | .negSucc below => '-' :: Nat.toDigits 10 (below + 1)

mutual

def compactChars : Json → List Char
  | .null => ['n', 'u', 'l', 'l']
  | .boolean true => ['t', 'r', 'u', 'e']
  | .boolean false => ['f', 'a', 'l', 's', 'e']
  | .number value => digits value
  | .text value => quoted value
  | .array items => '[' :: (compactItems items ++ [']'])
  | .object fields => '\x7b' :: (compactFields fields ++ ['\x7d'])

def compactItems : List Json → List Char
  | [] => []
  | [item] => compactChars item
  | item :: next :: rest => compactChars item ++ ',' :: compactItems (next :: rest)

def compactFields : List (String × Json) → List Char
  | [] => []
  | [(name, value)] => quoted name ++ ':' :: compactChars value
  | (name, value) :: next :: rest =>
      quoted name ++ ':' :: (compactChars value ++ ',' :: compactFields (next :: rest))

end

def compact (json : Json) : String :=
  String.ofList json.compactChars

def newLine (depth : Nat) : List Char :=
  '\n' :: List.replicate (2 * depth) ' '

mutual

def prettyChars (depth : Nat) : Json → List Char
  | .null => ['n', 'u', 'l', 'l']
  | .boolean true => ['t', 'r', 'u', 'e']
  | .boolean false => ['f', 'a', 'l', 's', 'e']
  | .number value => digits value
  | .text value => quoted value
  | .array [] => ['[', ']']
  | .array (item :: rest) =>
      '[' :: (prettyItems (depth + 1) (item :: rest) ++ newLine depth ++ [']'])
  | .object [] => ['\x7b', '\x7d']
  | .object (field :: rest) =>
      '\x7b' :: (prettyFields (depth + 1) (field :: rest) ++ newLine depth ++ ['\x7d'])

def prettyItems (depth : Nat) : List Json → List Char
  | [] => []
  | [item] => newLine depth ++ prettyChars depth item
  | item :: next :: rest =>
      newLine depth ++ prettyChars depth item ++ ',' :: prettyItems depth (next :: rest)

def prettyFields (depth : Nat) : List (String × Json) → List Char
  | [] => []
  | [(name, value)] => newLine depth ++ quoted name ++ [':', ' '] ++ prettyChars depth value
  | (name, value) :: next :: rest =>
      newLine depth ++ quoted name ++ [':', ' '] ++ prettyChars depth value ++
        ',' :: prettyFields depth (next :: rest)

end

def pretty (json : Json) : String :=
  String.ofList (json.prettyChars 0)

/-- A field that is left out when it has no value. -/
def field? (name : String) (value : Option Json) : List (String × Json) :=
  match value with
  | some present => [(name, present)]
  | none => []

end CompilerDriver.Json
