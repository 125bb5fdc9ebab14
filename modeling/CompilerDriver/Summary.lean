import CompilerDriver.Mode
import CompilerDriver.Step

/-!
A finished run: its mode and one report for each external step, in order, with the exit status and
the bytes for standard output that follow from them. How a summary is shown is decided elsewhere.
-/

namespace CompilerDriver

structure Summary where
  mode : Mode
  steps : List StepReport
  deriving Repr, DecidableEq

namespace Summary

def errors (summary : Summary) : List StepError :=
  summary.steps.filterMap fun step => step.outcome.error?

/-- The highest status that a failed step asks for; zero when none failed. -/
def exitCode (summary : Summary) : Nat :=
  (summary.errors.map StepError.exitCode).foldl max 0

def failures (summary : Summary) : Nat :=
  summary.steps.countP fun step => step.outcome.isFailure

def payloads (summary : Summary) : List Bytes :=
  summary.steps.filterMap StepReport.payload?

/-- Writes byte strings to an output that takes `room` bytes and no more. What fits is written. -/
def writeWithin (room : Nat) : List Bytes → Bytes × Option OsError
  | [] => ([], none)
  | payload :: rest =>
      if payload.length ≤ room then
        let (written, error) := writeWithin (room - payload.length) rest
        (payload ++ written, error)
      else
        (payload.take room, some (.described "failed to write whole buffer"))

def output (summary : Summary) : Bytes :=
  summary.payloads.flatten

end CompilerDriver.Summary
