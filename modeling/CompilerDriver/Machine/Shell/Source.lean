import CompilerDriver.Machine.Shell.Form

/-!
The text of a script while it is read: what is left of it, the line reached, the aliases that may
stand for words, and the here-documents whose bodies come after the next end of a line. A backslash
in front of a line end joins two lines.
-/

namespace CompilerDriver.Machine.Shell

structure Awaited where
  number : Nat
  delimiter : Units
  quoted : Bool
  stripsTabs : Bool
  deriving Inhabited

/-- An alias whose text is being read: how much text is left at its end, and whether a blank ends
it. -/
structure Inserted where
  name : Bytes
  left : Nat
  blank : Bool

inductive Token where
  | word (parts : Word)
  | keyword (text : String)
  | operator (text : String)
  | file (channel : Nat) (opening : Kernel.Opening) (forced : Bool)
  | channel (channel : Nat)
  | document (channel : Nat) (stripsTabs : Bool)
  | lineEnd
  | textEnd
  deriving Inhabited

structure Source where
  text : Units
  line : Nat := 1
  aliases : List (Bytes × Bytes) := []
  inserted : List Inserted := []
  /-- Whether the next word may be an alias because one that ends in a blank stood before it. -/
  recheck : Bool := false
  pushed : Option Token := none
  awaited : List Awaited := []
  /-- The bodies that were read, and those known from a reading before. -/
  documents : List (Nat × Word) := []
  known : List (Nat × Word) := []
  number : Nat := 0

abbrev Read := StateT Source (Except Breakage)

namespace Read

def fail {α : Type} (message : String) : Read α := fun source =>
  .error { line := source.line, left := source.text.length, message := message }

def skip (count : Nat) : Read Unit :=
  modify fun source =>
    let passed := source.text.take count
    { source with text := source.text.drop count, line := source.line + passed.count '\n' }

def unjoined : Units → Nat × Units
  | '\\' :: '\n' :: rest =>
      let (count, left) := unjoined rest
      (count + 1, left)
  | text => (0, text)

def skipJoins : Read Unit :=
  modify fun source =>
    let (count, left) := unjoined source.text
    { source with text := left, line := source.line + count }

def peek : Read (Option Char) := do
  return (← get).text.head?

def peekJoined : Read (Option Char) := do
  skipJoins
  peek

def take : Read (Option Char) := do
  let unit ← peek
  skip 1
  return unit

def spanJoined (isWanted : Char → Bool) : (steps : Nat) → Read Units
  | 0 => return []
  | steps + 1 => do
      match ← peekJoined with
      | some unit =>
          if isWanted unit then
            skip 1
            return unit :: (← spanJoined isWanted steps)
          else return []
      | none => return []

def span (isWanted : Char → Bool) : Read Units := do
  let units := (← get).text.takeWhile isWanted
  skip units.length
  return units

def room : Read Nat := do
  return (← get).text.length + 1

def insert (name value : Bytes) : Read Unit :=
  modify fun source =>
    let units := Units.ofBytes value
    let blank := units.getLast?.any fun unit => unit == ' ' || unit == '\t'
    { source with
      text := units ++ source.text
      inserted := { name := name, left := source.text.length, blank := blank } :: source.inserted }

def alias? (name : Bytes) : Read (Option Bytes) := do
  let source ← get
  match source.aliases.lookup name with
  | none => return none
  | some value =>
      let length := source.text.length
      let isBusy := source.inserted.any fun entry => entry.name == name && entry.left ≤ length
      return if isBusy then none else some value

def noteCrossing (before : Nat) : Read Unit :=
  modify fun source =>
    let now := source.text.length
    let crossed := source.inserted.any fun entry =>
      entry.blank && entry.left < before && now ≤ entry.left
    { source with
      recheck := source.recheck || crossed
      inserted := source.inserted.filter fun entry => entry.left ≤ now }

def position : Read Nat := do
  let source ← get
  return if source.inserted.isEmpty then 0 else source.text.length

end Read

end CompilerDriver.Machine.Shell
