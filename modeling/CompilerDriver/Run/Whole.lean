import CompilerDriver.Run.Batch
import CompilerDriver.Run.Single
import CompilerDriver.Summary

/-!
One run from its configuration to its summary. The mode decides which steps are made; an error means
that no command was launched.
-/

namespace CompilerDriver.Run

/-- The files, and then the forms when there are any to evaluate. The image is asked for up front,
so that a missing one never leaves half a batch. -/
def compileThenEvaluate (configuration : Configuration) (evaluates : Bool) (runner : Runner)
    (world : World) : Except ConfigError (List StepReport) × World :=
  match configuration.image with
  | .error error => (.error error, world)
  | .ok _ =>
      match compile configuration runner world with
      | (.error error, next) => (.error error, next)
      | (.ok reports, next) =>
          if evaluates then
            match evaluate configuration runner next with
            | (.error error, last) => (.error error, last)
            | (.ok report, last) => (.ok (reports ++ [report]), last)
          else (.ok reports, next)

def only (result : Except ConfigError StepReport × World) :
    Except ConfigError (List StepReport) × World :=
  (result.1.map fun report => [report], result.2)

def steps (configuration : Configuration) (mode : Mode) (runner : Runner) (world : World) :
    Except ConfigError (List StepReport) × World :=
  match mode with
  | .bootstrap => only (bootstrap configuration runner world)
  | .compile evaluates => compileThenEvaluate configuration evaluates runner world
  | .interactive => only (interact configuration runner world)

def whole (configuration : Configuration) (runner : Runner) (world : World) :
    Except ConfigError Summary × World :=
  match Mode.resolve configuration with
  | .error error => (.error error, world)
  | .ok mode =>
      let noted := world.log
        { level := .debug, message := "resolved mode", fields := [("mode", .text mode.name)] }
      let (result, next) := steps configuration mode runner noted
      (result.map fun reports => { mode := mode, steps := reports }, next)

end CompilerDriver.Run
