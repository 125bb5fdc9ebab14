import CompilerDriver.FileTree
import CompilerDriver.Step

/-!
What a run acts on: a clock, a tree of files, and a runner that answers commands. Every call and
every log record is kept in order. The runner is a function, so a run is one too; a runner may look
at the position of a call, at its command and at the tree, and hands back the tree that the call
leaves.
-/

namespace CompilerDriver

inductive Level where
  | debug
  | info
  | warn
  deriving Repr, DecidableEq

def Level.name : Level → String
  | .debug => "DEBUG"
  | .info => "INFO"
  | .warn => "WARN"

structure Record where
  level : Level
  message : String
  fields : List (String × Json) := []
  deriving Repr

/-- A command handed to a runner. An attached one has the terminal to itself, and only its status
counts. -/
structure Call where
  index : Nat
  attached : Bool
  command : Command
  deriving Repr, DecidableEq

/-- What comes of a call: how long it takes, its answer, the tree it leaves, and the runner's own
records at its start and its end. -/
structure Reply where
  duration : Nat
  answer : Except RunError Completion
  tree : FileTree
  opening : List Record := []
  closing : List Record := []

abbrev Runner := Call → FileTree → Reply

inductive Event where
  | started (time : Nat) (call : Call)
  | ended (time : Nat) (index : Nat)
  | logged (record : Record)
  deriving Repr

structure World where
  time : Nat := 0
  calls : Nat := 0
  tree : FileTree
  trace : List Event := []
  deriving Repr

/-- A call under way: when it ends, and what comes of it. -/
structure Flight where
  index : Nat
  finish : Nat
  answer : Except RunError Completion
  closing : List Record

namespace World

def log (world : World) (record : Record) : World :=
  { world with trace := world.trace ++ [.logged record] }

def logAll (world : World) (records : List Record) : World :=
  { world with trace := world.trace ++ records.map .logged }

def launch (runner : Runner) (attached : Bool) (command : Command) (world : World) :
    Flight × World :=
  let call : Call := { index := world.calls, attached := attached, command := command }
  let reply := runner call world.tree
  ({ index := world.calls
     finish := world.time + reply.duration
     answer := reply.answer
     closing := reply.closing },
   logAll
     { world with
       calls := world.calls + 1
       tree := reply.tree
       trace := world.trace ++ [.started world.time call] }
     reply.opening)

def land (flight : Flight) (world : World) : World :=
  logAll
    { world with
      time := max world.time flight.finish
      trace := world.trace ++ [.ended (max world.time flight.finish) flight.index] }
    flight.closing

def run (runner : Runner) (attached : Bool) (command : Command) (world : World) :
    Except RunError Completion × World :=
  let (flight, started) := world.launch runner attached command
  (flight.answer, started.land flight)

/-- The commands launched so far, in the order of their starts. -/
def launched (world : World) : List Command :=
  world.trace.filterMap fun event =>
    match event with
    | .started _ call => some call.command
    | _ => none

def records (world : World) : List Record :=
  world.trace.filterMap fun event =>
    match event with
    | .logged record => some record
    | _ => none

end CompilerDriver.World
