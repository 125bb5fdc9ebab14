import CompilerDriver.Machine.Program.Files
import CompilerDriver.Machine.Program.Starting

/-!
Walking through directories. Every path that is met is put to a rule, whose tests look at it and
whose actions do something with it.
-/

namespace CompilerDriver.Machine.Program.Walk

open Kernel (Proc)
open Shell (Units Cell)

inductive Comparison where
  | exactly
  | more
  | less
  deriving Repr, DecidableEq, Inhabited

inductive Test where
  | always (holds : Bool)
  | name (pattern : Shell.Pattern) (folds : Bool)
  | path (pattern : Shell.Pattern) (folds : Bool)
  | kind (letters : List Char)
  | isEmpty
  | newer (path : Bytes)
  | size (comparison : Comparison) (count unit : Nat)
  | print (ending : UInt8)
  | delete
  | prune
  | quit
  | start (words : List Bytes)
  | collect (number : Nat) (words : List Bytes)
  deriving Inhabited

inductive Rule where
  | test (test : Test)
  | opposite (rule : Rule)
  | both (first second : Rule)
  | either (first second : Rule)
  | list (first second : Rule)
  deriving Inhabited

def Rule.acts : Rule → Bool
  | .test (.print _) | .test .delete | .test (.start _) | .test (.collect _ _) => true
  | .test _ => false
  | .opposite rule => rule.acts
  | .both first second | .either first second | .list first second => first.acts || second.acts

def Rule.deletes : Rule → Bool
  | .test .delete => true
  | .test _ => false
  | .opposite rule => rule.deletes
  | .both first second | .either first second | .list first second =>
      first.deletes || second.deletes

structure Draft where
  left : List Bytes
  least : Nat := 0
  most : Option Nat := none
  isDeep : Bool := false
  collected : Nat := 0
  before : Bytes := []
  predicate : Option Bytes := none

/-- Why words are no rule. `stray` is a word that no predicate takes, and the predicate before
it. -/
structure Misreading where
  message : Bytes
  stray : Option (Bytes × Bytes) := none

abbrev Read := StateT Draft (Except Misreading)

namespace Read

def fail {α : Type} (message : Bytes) : Read α := fun _ => .error { message := message }

def failText {α : Type} (message : String) : Read α :=
  fail (Bytes.ofText message)

def peek : Read (Option Bytes) := do
  return (← get).left.head?

def skip : Read Unit :=
  modify fun draft =>
    { draft with before := draft.left.headD draft.before, left := draft.left.drop 1 }

def operand (predicate : Bytes) : Read Bytes := do
  match ← peek with
  | some word =>
      skip
      return word
  | none => fail (Bytes.ofText "missing argument to \x60" ++ predicate ++ [0x27])

def patternOf (folds : Bool) (word : Bytes) : Shell.Pattern :=
  let units := if folds then (Units.ofBytes word).map Char.toLower else Units.ofBytes word
  Shell.Pattern.ofCells (units.map fun unit => { unit := unit, quoted := false })

def depth (predicate : Bytes) : Read Nat := do
  let word ← operand predicate
  if !word.isEmpty && word.all Amount.isDigit then return Amount.digitsValue word
  else
    fail (Bytes.ofText "Expected a positive decimal integer argument to " ++ predicate ++
      Bytes.ofText ", but got " ++ Quoting.word word)

def commandWords (predicate : Bytes) : (steps : Nat) → List Bytes → Read Test
  | 0, _ => failText "missing argument to \x60-exec'"
  | steps + 1, words => do
      let word ← operand predicate
      if word = [0x3B] then return .start words.reverse
      else if word = [0x2B] && words.head? == some (Bytes.ofText "\x7b\x7d") then
        let number := (← get).collected
        modify fun draft => { draft with collected := number + 1 }
        return .collect number (words.drop 1).reverse
      else commandWords predicate steps (word :: words)

def sizeTest (word : Bytes) : Option Test :=
  let (comparison, rest) :=
    match word with
    | 0x2B :: rest => (Comparison.more, rest)
    | 0x2D :: rest => (Comparison.less, rest)
    | rest => (Comparison.exactly, rest)
  let (digits, suffix) := rest.span Amount.isDigit
  let unit? : Option Nat :=
    match suffix with
    | [] | [0x62] => some 512
    | [0x63] => some 1
    | [0x77] => some 2
    | [0x6B] => some 1024
    | [0x4D] => some 1048576
    | [0x47] => some 1073741824
    | _ => none
  if digits.isEmpty then none
  else unit?.map fun unit => .size comparison (Amount.digitsValue digits) unit

/-- What a predicate means; nothing if it only sets something. -/
def predicate (word : Bytes) : Read Rule := do
  skip
  let earlier := (← get).predicate
  modify fun draft => { draft with predicate := some word }
  let test (test : Test) : Read Rule := return .test test
  match shown word with
  | "-name" => test (.name (patternOf false (← operand word)) false)
  | "-iname" => test (.name (patternOf true (← operand word)) true)
  | "-path" | "-wholename" => test (.path (patternOf false (← operand word)) false)
  | "-ipath" => test (.path (patternOf true (← operand word)) true)
  | "-type" =>
      let letters := (shown (← operand word)).toList.filter (· != ',')
      match letters.find? fun letter => !"fdlbcps".toList.contains letter with
      | some letter => failText ("Unknown argument to -type: " ++ String.singleton letter)
      | none => test (.kind letters)
  | "-empty" => test .isEmpty
  | "-newer" => test (.newer (← operand word))
  | "-size" =>
      let size ← operand word
      match sizeTest size with
      | some found => test found
      | none => fail (Bytes.ofText "Invalid argument \x60" ++ size ++ Bytes.ofText "' to -size")
  | "-print" => test (.print 0x0A)
  | "-print0" => test (.print 0)
  | "-delete" =>
      modify fun draft => { draft with isDeep := true }
      test .delete
  | "-prune" => test .prune
  | "-quit" => test .quit
  | "-true" => test (.always true)
  | "-false" => test (.always false)
  | "-exec" | "-execdir" => return .test (← commandWords word ((← get).left.length + 1) [])
  | "-maxdepth" =>
      let most ← depth word
      modify fun draft => { draft with most := some most }
      test (.always true)
  | "-mindepth" =>
      let least ← depth word
      modify fun draft => { draft with least := least }
      test (.always true)
  | "-depth" | "-d" =>
      modify fun draft => { draft with isDeep := true }
      test (.always true)
  | "-mount" | "-xdev" | "-noleaf" | "-follow" | "-daystart" => test (.always true)
  | _ =>
      if word.head? == some 0x2D then
        fail (Bytes.ofText "unknown predicate \x60" ++ word ++ [0x27])
      else
        fun _ => .error
          { message := Bytes.ofText "paths must precede expression: \x60" ++ word ++ [0x27]
            stray := earlier.map fun before => (word, before) }

def isWord (texts : List String) (word : Bytes) : Bool :=
  texts.contains (shown word)

mutual

def list : (steps : Nat) → Read Rule
  | 0 => failText "invalid expression"
  | steps + 1 => do
      let first ← either steps
      match ← peek with
      | some word =>
          if isWord [","] word then
            skip
            return .list first (← list steps)
          else return first
      | none => return first

def either : (steps : Nat) → Read Rule
  | 0 => failText "invalid expression"
  | steps + 1 => do
      let first ← both steps
      match ← peek with
      | some word =>
          if isWord ["-o", "-or"] word then
            skip
            return .either first (← either steps)
          else return first
      | none => return first

def both : (steps : Nat) → Read Rule
  | 0 => failText "invalid expression"
  | steps + 1 => do
      let first ← single steps
      match ← peek with
      | none => return first
      | some word =>
          if isWord ["-o", "-or", ")", ","] word then return first
          else
            if isWord ["-a", "-and"] word then skip
            return .both first (← both steps)

def single : (steps : Nat) → Read Rule
  | 0 => failText "invalid expression"
  | steps + 1 => do
      match ← peek with
      | none =>
          fail (Bytes.ofText "expected an expression after " ++ Quoting.word (← get).before)
      | some word =>
          if isWord ["!", "-not"] word then
            skip
            return .opposite (← single steps)
          else if isWord ["("] word then
            skip
            let inner ← list steps
            if (← peek) == some [0x29] then
              skip
              return inner
            else
              failText
                "invalid expression; I was expecting to find a ')' somewhere but did not see one."
          else if isWord ["-o", "-or", "-a", "-and", ","] word then
            fail (Bytes.ofText "invalid expression; you have used a binary operator '" ++ word ++
              Bytes.ofText "' with nothing before it.")
          else predicate word

end

/-- All words as one rule. Paths that no action of the rule is for are printed. -/
def whole : Read Rule := do
  if (← get).left.isEmpty then return .test (.print 0x0A)
  else
    let rule ← list (4 * (← get).left.length + 8)
    match (← get).left with
    | [] => return if rule.acts then rule else .both rule (.test (.print 0x0A))
    | _ => failText "you have too many ')'"

end Read

/-! ### Walking -/

structure State where
  isPruned : Bool := false
  hasQuit : Bool := false
  collected : List (Nat × List Bytes × List Bytes) := []
  status : Nat := 0

abbrev Tour := StateT State Proc

def act {α : Type} (action : Proc α) : Tour α := fun state => do
  return (← action, state)

structure Met where
  path : Bytes
  place : Place
  node : Node

def raise (status : Nat) : Tour Unit :=
  modify fun state => { state with status := worse state.status status }

def fold (folds : Bool) (units : Units) : Units :=
  if folds then units.map Char.toLower else units

def filled (path word : Bytes) : Bytes :=
  Gathering.placed (Bytes.ofText "\x7b\x7d") path (word.length + 1) word

def started (execute : Execute) (call : Call) (words : List Bytes) : Tour Bool := do
  let name := words.headD []
  let child ← act <| Proc.fork id do
    let error ← executeNamed execute { call with words := words }
    complain call (Quoting.word name ++ Bytes.ofText (": " ++ reason error))
    return 1
  return (← act (Proc.await child)) == .exited 0

def isEmptyNode (tree : FileTree) (met : Met) : Bool :=
  match met.node with
  | .file bytes _ => bytes.isEmpty
  | .directory => (tree.children met.place).isEmpty

def kindLetter (met : Met) : Char :=
  match met.node with
  | .directory => 'd'
  | .file .. => if (Kernel.deviceAt? met.place).isSome then 'c' else 'f'

def sizeOf (met : Met) : Nat :=
  match met.node with
  | .file bytes _ => bytes.length
  | .directory => 4096

def isNewer (kernel : Kernel) (number : Nat) (met : Met) (path : Bytes) : Bool :=
  match kernel.look number path with
  | .ok (place, _) =>
      (kernel.stamps.lookup place).getD 0 < (kernel.stamps.lookup met.place).getD 0
  | .error _ => false

def delete (call : Call) (met : Met) : Tour Bool := do
  if met.path = Path.here then return true
  else
    let isFull ← act <| Proc.ask fun _ kernel => !(kernel.tree.children met.place).isEmpty
    if met.node == .directory && isFull then
      act (complain call (Bytes.ofText "cannot delete " ++ Quoting.word met.path ++
        Bytes.ofText ": Directory not empty"))
      raise 1
      return false
    else
      act (removeEntry met.place)
      return true

def check (execute : Execute) (call : Call) (met : Met) (test : Test) : Tour Bool := do
  match test with
  | .always holds => return holds
  | .name pattern folds => return pattern.covers (fold folds (Units.ofBytes (lastPart met.path)))
  | .path pattern folds => return pattern.covers (fold folds (Units.ofBytes met.path))
  | .kind letters => return letters.contains (kindLetter met)
  | .isEmpty => act (Proc.ask fun _ kernel => isEmptyNode kernel.tree met)
  | .newer path => act (Proc.ask fun number kernel => isNewer kernel number met path)
  | .size comparison count unit =>
      let units := (sizeOf met + unit - 1) / unit
      return match comparison with
        | .exactly => units == count
        | .more => count < units
        | .less => units < count
  | .print ending =>
      let _ ← act (Proc.write 1 (met.path ++ [ending]))
      return true
  | .delete => delete call met
  | .prune =>
      modify fun state => { state with isPruned := true }
      return true
  | .quit =>
      modify fun state => { state with hasQuit := true }
      return true
  | .start words => started execute call (words.map (filled met.path))
  | .collect number words =>
      modify fun state =>
        let before := ((state.collected.lookup number).map Prod.snd).getD []
        { state with
          collected := (number, words, met.path :: before) ::
            Kernel.dropKey state.collected number }
      return true

def judge (execute : Execute) (call : Call) (met : Met) : Rule → Tour Bool
  | .test test => do if (← get).hasQuit then return true else check execute call met test
  | .opposite rule => do return !(← judge execute call met rule)
  | .both first second => do
      if ← judge execute call met first then judge execute call met second else return false
  | .either first second => do
      if ← judge execute call met first then return true else judge execute call met second
  | .list first second => do
      let _ ← judge execute call met first
      judge execute call met second

def joined (path name : Bytes) : Bytes :=
  if path.getLast? == some Path.slash then path ++ name else path ++ Path.slash :: name

def visit (execute : Execute) (call : Call) (draft : Draft) (rule : Rule) :
    (steps : Nat) → (depth : Nat) → Met → Tour Unit
  | 0, _, _ => pure ()
  | steps + 1, depth, met => do
      let judged : Tour Unit := do
        if draft.least ≤ depth && !(← get).hasQuit then
          let _ ← judge execute call met rule
      modify fun state => { state with isPruned := false }
      unless draft.isDeep do judged
      let state ← get
      let goesOn := met.node == .directory && !state.isPruned && !state.hasQuit &&
        draft.most.all (depth < ·)
      if goesOn then
        let names ← act (Proc.ask fun _ kernel => kernel.tree.children met.place)
        names.forM fun name => do
          let place := met.place ++ [name]
          match ← act (Proc.ask fun _ kernel => kernel.tree.get? place) with
          | some node =>
              visit execute call draft rule steps (depth + 1)
                { path := joined met.path name, place := place, node := node }
          | none => pure ()
      if draft.isDeep then judged

def depthLimit : Nat := 1000

def visitAll (execute : Execute) (call : Call) (draft : Draft) (rule : Rule) :
    List Bytes → Tour Unit
  | [] => pure ()
  | path :: rest => do
      unless (← get).hasQuit do
        match ← act (Proc.ask fun number kernel => kernel.look number path) with
        | .error error =>
            act (complain call (Quoting.word path ++ Bytes.ofText (": " ++ reason error)))
            raise 1
        | .ok (place, node) =>
            visit execute call draft rule depthLimit 0
              { path := path, place := place, node := node }
      visitAll execute call draft rule rest

def settle (execute : Execute) (call : Call) : List (Nat × List Bytes × List Bytes) → Tour Unit
  | [] => pure ()
  | (_, words, paths) :: rest => do
      settle execute call rest
      unless ← started execute call (words ++ paths.reverse) do raise 1

def startsRule (word : Bytes) : Bool :=
  (word.head? == some 0x2D && word != [0x2D]) || word = [0x28] || word = [0x21]

def program (execute : Execute) : Program := fun call => do
  let words := call.arguments.dropWhile fun word => ["-H", "-L", "-P"].contains (shown word)
  let paths := words.takeWhile fun word => !startsRule word
  let left := words.drop paths.length
  match (Read.whole.run { left := left } : Except Misreading (Rule × Draft)) with
  | .error misreading =>
      complain call misreading.message
      match misreading.stray with
      | some (word, before) =>
          match ← Proc.ask fun number kernel => kernel.look number word with
          | .ok _ =>
              complain call (Bytes.ofText "possible unquoted pattern after predicate \x60" ++
                before ++ Bytes.ofText "'?")
          | .error _ => pure ()
      | none => pure ()
      return 1
  | .ok (rule, draft) =>
      let chosen := if paths.isEmpty then [Path.here] else paths
      let tour : Tour Unit := do
        visitAll execute call draft rule chosen
        settle execute call (← get).collected
      let (_, last) ← StateT.run tour {}
      return last.status

end CompilerDriver.Machine.Program.Walk
