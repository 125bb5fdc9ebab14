import CompilerDriver.Run.Whole

/-!
What a trace tells about calls: when each one started and when each one ended, in the order of the
trace. Log records are left out of this view. Every operation on a world is followed by what it adds
to the two lists.
-/

namespace CompilerDriver

namespace Event

def start? : Event → Option (Nat × Call)
  | .started time call => some (time, call)
  | _ => none

def end? : Event → Option (Nat × Nat)
  | .ended time index => some (time, index)
  | _ => none

def starts (trace : List Event) : List (Nat × Call) :=
  trace.filterMap start?

def ends (trace : List Event) : List (Nat × Nat) :=
  trace.filterMap end?

@[simp] theorem starts_nil : starts [] = [] := rfl

@[simp] theorem ends_nil : ends [] = [] := rfl

@[simp] theorem starts_append (left right : List Event) :
    starts (left ++ right) = starts left ++ starts right :=
  List.filterMap_append

@[simp] theorem ends_append (left right : List Event) :
    ends (left ++ right) = ends left ++ ends right :=
  List.filterMap_append

@[simp] theorem starts_cons (event : Event) (rest : List Event) :
    starts (event :: rest) = event.start?.toList ++ starts rest := by
  cases event <;> rfl

@[simp] theorem ends_cons (event : Event) (rest : List Event) :
    ends (event :: rest) = event.end?.toList ++ ends rest := by
  cases event <;> rfl

@[simp] theorem starts_logged (records : List Record) :
    starts (records.map Event.logged) = [] := by
  induction records with
  | nil => rfl
  | cons record rest ih =>
      rw [List.map_cons, starts_cons, ih]
      rfl

@[simp] theorem ends_logged (records : List Record) :
    ends (records.map Event.logged) = [] := by
  induction records with
  | nil => rfl
  | cons record rest ih =>
      rw [List.map_cons, ends_cons, ih]
      rfl

@[simp] theorem start?_started (time : Nat) (call : Call) :
    (Event.started time call).start? = some (time, call) := rfl

@[simp] theorem start?_ended (time index : Nat) : (Event.ended time index).start? = none := rfl

@[simp] theorem start?_logged (record : Record) : (Event.logged record).start? = none := rfl

@[simp] theorem end?_started (time : Nat) (call : Call) :
    (Event.started time call).end? = none := rfl

@[simp] theorem end?_ended (time index : Nat) :
    (Event.ended time index).end? = some (time, index) := rfl

@[simp] theorem end?_logged (record : Record) : (Event.logged record).end? = none := rfl

end Event

namespace World

def starts (world : World) : List (Nat × Call) :=
  Event.starts world.trace

def ends (world : World) : List (Nat × Nat) :=
  Event.ends world.trace

theorem launched_eq_starts (world : World) :
    world.launched = world.starts.map fun start => start.2.command := by
  unfold launched starts Event.starts
  rw [List.map_filterMap]
  congr 1
  funext event
  cases event <;> rfl

variable (world : World)

@[simp] theorem log_time (record : Record) : (world.log record).time = world.time := rfl

@[simp] theorem log_calls (record : Record) : (world.log record).calls = world.calls := rfl

@[simp] theorem log_tree (record : Record) : (world.log record).tree = world.tree := rfl

@[simp] theorem log_starts (record : Record) : (world.log record).starts = world.starts := by
  simp [log, starts]

variable (runner : Runner) (attached : Bool) (command : Command)

def nextCall : Call :=
  { index := world.calls, attached := attached, command := command }

def reply : Reply :=
  runner (world.nextCall attached command) world.tree

theorem launch_flight :
    (world.launch runner attached command).1 =
      { index := world.calls
        finish := world.time + (world.reply runner attached command).duration
        answer := (world.reply runner attached command).answer
        closing := (world.reply runner attached command).closing } := rfl

@[simp] theorem land_tree (flight : Flight) : (world.land flight).tree = world.tree := rfl

def runEvents : List Event :=
  .started world.time (world.nextCall attached command) ::
    ((world.reply runner attached command).opening.map .logged ++
      .ended (world.time + (world.reply runner attached command).duration) world.calls ::
        (world.reply runner attached command).closing.map .logged)

theorem run_eq :
    world.run runner attached command =
      ((world.reply runner attached command).answer,
        { time := world.time + (world.reply runner attached command).duration
          calls := world.calls + 1
          tree := (world.reply runner attached command).tree
          trace := world.trace ++ world.runEvents runner attached command }) := by
  simp [run, launch, land, logAll, runEvents, nextCall, reply]

/-- The one call between two worlds, and nothing else but log records. -/
structure OneCall (world last : World) (runner : Runner) (call : Call) : Prop where
  trace : ∃ events, last.trace = world.trace ++ events ∧
    Event.starts events = [(world.time, call)] ∧
    Event.ends events = [(world.time + (runner call world.tree).duration, call.index)]

variable {world} in
theorem OneCall.starts {last : World} {runner : Runner} {call : Call}
    (only : OneCall world last runner call) :
    last.starts = world.starts ++ [(world.time, call)] := by
  obtain ⟨events, traced, starts, _⟩ := only.trace
  unfold World.starts
  rw [traced, Event.starts_append, starts]

variable {world} in
theorem OneCall.launched {last : World} {runner : Runner} {call : Call}
    (only : OneCall world last runner call) :
    last.launched = world.launched ++ [call.command] := by
  rw [launched_eq_starts, launched_eq_starts, only.starts, List.map_append]
  rfl

theorem run_oneCall (before : Record) :
    ∃ last,
      (world.log before).run runner attached command =
        ((runner (world.nextCall attached command) world.tree).answer, last) ∧
      OneCall world last runner (world.nextCall attached command) := by
  rw [run_eq]
  refine ⟨_, rfl, ⟨.logged before :: (world.log before).runEvents runner attached command, ?_⟩⟩
  refine ⟨by simp [log], ?_, ?_⟩
  · simp [runEvents, nextCall]
  · simp [runEvents, nextCall, reply]

variable {world} in
theorem OneCall.log {last : World} {runner : Runner} {call : Call}
    (only : OneCall world last runner call) (record : Record) :
    OneCall world (last.log record) runner call := by
  obtain ⟨events, traced, starts, ends⟩ := only.trace
  refine ⟨events ++ [.logged record], ?_, ?_, ?_⟩
  · simp only [World.log, traced, List.append_assoc]
  · simp [starts]
  · simp [ends]

end World

end CompilerDriver
