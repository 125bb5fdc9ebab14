import CompilerDriver.Machine.Shell.Builtin.Support
import CompilerDriver.Machine.Shell.Expansion

/-!
The commands that set variables and arguments: those that mark variables, those that cover and
remove them, the reading of lines, and the reading of options from arguments.
-/

namespace CompilerDriver.Machine.Shell.Builtin

open Act
open Kernel (Proc)

def splitAssignment (word : Bytes) : Bytes × Option Bytes :=
  let (name, behind) := word.span (· != 0x3D)
  (name, if behind.isEmpty then none else some (behind.drop 1))

def checkName (name : Bytes) : Act Unit :=
  if isName name then pure () else fail (name ++ Bytes.ofText ": bad variable name")

def give (name value : Bytes) : Act Unit := do
  checkName name
  assign name value

def checkConstant (name : Bytes) : Act Unit := do
  if (← get).isConstant name then fail (name ++ Bytes.ofText ": is read only")

/-- A line for each variable that is wanted, with its value as a shell would have to read it. -/
def listing (before : Bytes) (wanted : Binding → Bool) (memory : Memory) : Bytes :=
  (memory.sorted.filter fun entry => wanted entry.2).flatMap fun entry =>
    let value :=
      match entry.2.value with
      | some value => 0x3D :: quoted value
      | none => []
    before ++ entry.1 ++ value ++ [0x0A]

/-- Marks variables, after their assignments. Without words, the marked variables are listed. -/
def marking (name : String) (mark : Memory → Bytes → Memory) (isMarked : Binding → Bool) : Action :=
  fun words => do
    let (given, names) ← takeOptions "p" words
    if !given.isEmpty || names.isEmpty then
      print (listing (Bytes.ofText (name ++ " ")) isMarked (← get))
    else
      names.forM fun word => do
        match splitAssignment word with
        | (name, some value) =>
            give name value
            modify fun memory => mark memory name
        | (name, none) =>
            checkName name
            modify fun memory => mark memory name
      return 0

def exporting : Action := marking "export" Memory.markExported Binding.isExported

def fixing : Action := marking "readonly" Memory.markConstant Binding.isConstant

/-- Covers variables for the rest of a call; a minus sign stands for the options. -/
def covering : Action := fun words => do
  if (← get).frames.isEmpty then failText "not in a function"
  else
    words.forM fun word => do
      if word = [0x2D] then modify Memory.keepOptions
      else
        let (name, value) := splitAssignment word
        checkName name
        modify fun memory => memory.keep name
        match value with
        | some content => assign name content
        | none =>
            modify fun memory =>
              if (memory.binding? name).isSome then memory else memory.setBinding name {}
    return 0

def removing : Action := fun words => do
  let (given, names) ← takeOptions "vf" words
  if given.getLast?.any fun option => option.letter == 0x66 then
    modify fun memory =>
      { memory with functions := names.foldl Kernel.dropKey memory.functions }
  else
    names.forM fun name => do
      checkName name
      checkConstant name
      if name = Memory.optionIndex then illegalNumber []
      else modify fun memory => memory.unassign name
  return 0

def setArguments (arguments : List Bytes) : Act Unit :=
  modify fun memory => { memory with arguments := arguments, place := {} }

def shift : Action := fun words => do
  let amount ←
    match words with
    | [] => pure 1
    | word :: _ => count word
  let arguments := (← get).arguments
  if arguments.length < amount then failText "can't shift that many"
  else
    setArguments (arguments.drop amount)
    return 0

/-- The options with their letters; two of them have none. -/
def optionNames : List (String × String) :=
  [("errexit", "e"), ("noglob", "f"), ("ignoreeof", "I"), ("interactive", "i"), ("monitor", "m"),
   ("noexec", "n"), ("stdin", "s"), ("xtrace", "x"), ("verbose", "v"), ("vi", "V"),
   ("emacs", "E"), ("noclobber", "C"), ("allexport", "a"), ("notify", "b"), ("nounset", "u"),
   ("privileged", "p"), ("nolog", "nolog"), ("debug", "debug")]

def switch (isOn : Bool) (option : String) (memory : Memory) : Memory :=
  let others := memory.options.filter (· != option)
  { memory with options := if isOn then option :: others else others }

def setOption (isOn : Bool) (option : String) : Act Unit := do
  if isOn && option == "m" then complainText "can't access tty; job control turned off"
  else modify (switch isOn option)

def setLetter (isOn : Bool) (letter : UInt8) : Act Unit := do
  let option := String.singleton (Char.ofNat letter.toNat)
  if (optionNames.map Prod.snd).contains option then
    setOption isOn option
    if isOn && option == "V" then modify (switch false "E")
    if isOn && option == "E" then modify (switch false "V")
  else fail (Bytes.ofText "Illegal option -" ++ [letter])

/-- All options and whether they are set, to be looked at or to be read by a shell. -/
def optionListing (isOn : Bool) (memory : Memory) : String :=
  if isOn then
    "Current option settings\n" ++ String.join (optionNames.map fun entry =>
      entry.1 ++ String.ofList (List.replicate (16 - entry.1.length) ' ') ++
        (if memory.has entry.2 then "on\n" else "off\n"))
  else
    String.join (optionNames.map fun entry =>
      "set " ++ (if memory.has entry.2 then "-o " else "+o ") ++ entry.1 ++ "\n")

def setNamed (isOn : Bool) (words : List Bytes) : Act (List Bytes) := do
  match words with
  | [] =>
      let _ ← print (Bytes.ofText (optionListing isOn (← get)))
      return []
  | name :: rest =>
      match optionNames.lookup (shown name) with
      | some option =>
          setOption isOn option
          return rest
      | none => fail (Bytes.ofText "Illegal option -o " ++ name)

def setLetters (isOn : Bool) : Bytes → List Bytes → Act (List Bytes)
  | [], rest => return rest
  | letter :: more, rest => do
      if letter = 0x6F then setLetters isOn more (← setNamed isOn rest)
      else
        setLetter isOn letter
        setLetters isOn more rest

/-- Sets options, and then the arguments if there are any words left, or if two minus signs stand
before none. -/
def setFrom : (steps : Nat) → List Bytes → Act Unit
  | 0, _ => pure ()
  | steps + 1, words =>
      match words with
      | [] => pure ()
      | [0x2D] :: rest => do
          modify fun memory => switch false "x" (switch false "v" memory)
          unless rest.isEmpty do setArguments rest
      | [0x2D, 0x2D] :: rest => setArguments rest
      | (0x2D :: letters) :: rest => do
          setFrom steps (← setLetters true letters rest)
      | (0x2B :: letters) :: rest => do
          setFrom steps (← setLetters false letters rest)
      | words => setArguments words

def set : Action := fun words => do
  if words.isEmpty then print (listing [] (fun binding => binding.value.isSome) (← get))
  else
    setFrom (words.length + 1) words
    return 0

abbrev Marked := UInt8 × Bool

def readBytes : Act (Except OsError Bytes) :=
  run <| Proc.call fun number kernel =>
    match kernel.readLine number 0 with
    | some result => some result
    | none =>
        if (kernel.process number).pending.isEmpty then none
        else some (.error .interrupted, kernel)

/-- A line while it is read, the latest byte first. -/
structure Line where
  bytes : List Marked := []
  isEscaping : Bool := false
  isComplete : Bool := false

def Line.take (raw : Bool) (line : Line) (byte : UInt8) : Line :=
  if byte = 0 then line
  else if line.isEscaping then
    if byte = 0x0A then { line with isEscaping := false }
    else { line with bytes := (byte, true) :: line.bytes, isEscaping := false }
  else if byte = 0x5C && !raw then { line with isEscaping := true }
  else if byte = 0x0A then { line with isComplete := true }
  else { line with bytes := (byte, false) :: line.bytes }

def readLineFrom (raw : Bool) : (steps : Nat) → Line → Act Line
  | 0, line => return line
  | steps + 1, line => do
      match ← readBytes with
      | .error _ | .ok [] => return line
      | .ok bytes =>
          let next := bytes.foldl (Line.take raw) line
          if next.isComplete then return next else readLineFrom raw steps next

def isLooseSeparator (separators : Bytes) (marked : Marked) : Bool :=
  !marked.2 && separators.contains marked.1

def isLooseBlank (separators : Bytes) (marked : Marked) : Bool :=
  isLooseSeparator separators marked && Expansion.isBlankByte marked.1

/-- What is behind a field: blanks, at most one other separator, and blanks again. -/
def dropSeparator (separators : Bytes) (line : List Marked) : List Marked :=
  let behind := line.dropWhile (isLooseBlank separators)
  match behind with
  | marked :: rest =>
      if isLooseSeparator separators marked then rest.dropWhile (isLooseBlank separators)
      else behind
  | [] => []

/-- Gives each name a field of the line; the last one gets all that is left. -/
def giveFields (separators : Bytes) (line : List Marked) : List Bytes → Act Unit
  | [] => pure ()
  | [name] =>
      let kept := (line.reverse.dropWhile (isLooseBlank separators)).reverse
      let (field, behind) := kept.span fun marked => !isLooseSeparator separators marked
      let isOneField := (dropSeparator separators behind).isEmpty
      give name ((if isOneField then field else kept).map Prod.fst)
  | name :: next :: rest => do
      let (field, behind) := line.span fun marked => !isLooseSeparator separators marked
      give name (field.map Prod.fst)
      giveFields separators (dropSeparator separators behind) (next :: rest)

def read : Action := fun words => do
  let (given, names) ← takeOptions "p:r" words
  if names.isEmpty then failText "arg count"
  else
    let line ← readLineFrom (has 'r' given) Proc.readLimit {}
    let separators := Expansion.separators (← get)
    giveFields separators (line.bytes.reverse.dropWhile (isLooseBlank separators)) names
    return if line.isComplete then 0 else 1

/-- The place after one more option, with the option's letter, and what it sets its word to: nothing
when it is not to be set, and none when it is to be removed. -/
structure Taken where
  letter : UInt8 := 0x3F
  word : Option (Option Bytes) := none
  index : Nat
  letters : Nat := 0
  message : Bytes := []
  isDone : Bool := false

/-- What follows a letter in the options. A colon behind another letter belongs to that letter. -/
def behindLetter? (letter : UInt8) : Bytes → Option Bytes
  | [] => none
  | [only] => if only = letter then some [] else none
  | first :: next :: rest =>
      if first = letter then some (next :: rest)
      else if next = 0x3A then behindLetter? letter rest
      else behindLetter? letter (next :: rest)

/-- A letter of a word, looked up in the options. `behind` is what follows it in its word, and
`index` that of the next word. -/
def takeLetter (options : Bytes) (words : List Bytes) (letter : UInt8) (behind : Bytes)
    (letters index : Nat) : Taken :=
  let isQuiet := options.head? == some 0x3A
  let place : Taken := { index := index, letters := letters + 1 }
  match behindLetter? letter options with
  | none =>
      if isQuiet then { place with word := some (some [letter]) }
      else
        { place with
          word := some none
          message := Bytes.ofText "Illegal option -" ++ [letter, 0x0A] }
  | some (0x3A :: _) =>
      match behind, words[index - 1]? with
      | [], none =>
          if isQuiet then { place with letter := 0x3A, word := some (some [letter]) }
          else
            { place with
              word := some none
              message := Bytes.ofText "No arg for -" ++ letter :: Bytes.ofText " option\n" }
      | [], some word => { letter := letter, word := some (some word), index := index + 1 }
      | _, _ => { letter := letter, word := some (some behind), index := index }
  | some _ => { place with letter := letter, word := some (some []) }

def takeOption (options : Bytes) (words : List Bytes) (place : OptionPlace) : Taken :=
  let current := if place.index ≤ 1 then [] else (words[place.index - 2]?).getD []
  let left := if place.letters = 0 then [] else current.drop place.letters
  match left with
  | letter :: behind => takeLetter options words letter behind place.letters place.index
  | [] =>
      match words[place.index - 1]? with
      | some [0x2D, 0x2D] => { index := place.index + 1, isDone := true }
      | some (0x2D :: letter :: behind) =>
          takeLetter options words letter behind 1 (place.index + 1)
      | _ => { index := place.index, isDone := true }

def getopts : Action := fun words => do
  match words with
  | options :: name :: more =>
      let memory ← get
      let all := if more.isEmpty then memory.arguments else more
      let place := if all.length + 1 < memory.place.index then {} else memory.place
      let taken := takeOption options all place
      unless taken.message.isEmpty do say 2 taken.message
      match taken.word with
      | none => pure ()
      | some none =>
          checkConstant Memory.optionWord
          modify fun memory => memory.unassign Memory.optionWord
      | some (some word) => assign Memory.optionWord word
      assign Memory.optionIndex (Bytes.ofText (toString taken.index))
      modify fun memory => { memory with place := {} }
      give name [taken.letter]
      modify fun memory =>
        { memory with place := { index := taken.index, letters := taken.letters } }
      return if taken.isDone then 1 else 0
  | _ => failText "Usage: getopts optstring var [arg...]"

end CompilerDriver.Machine.Shell.Builtin
