import CompilerDriver.Summary

/-!
The report for a reader at a terminal: a line for each step, then what the step wrote to its error
stream, and a closing count when one step of several failed. A session that went well is left out,
since the reader has just seen it.
-/

namespace CompilerDriver.Report

inductive Colour where
  | green
  | yellow
  | red
  | bold
  deriving Repr, DecidableEq

def Colour.code : Colour → String
  | .green => "32"
  | .yellow => "33"
  | .red => "31"
  | .bold => "1"

def paint (coloured : Bool) (colour : Colour) (text : String) : String :=
  if coloured then "\x1b[" ++ colour.code ++ "m" ++ text ++ "\x1b[0m" else text

def closeLine (text : String) : String :=
  if text.isEmpty || text.toList.getLast? == some '\n' then text else text ++ "\n"

def label (step : StepReport) : String :=
  match step.operation, step.source with
  | .compile file, _ => "compile " ++ file.display
  | operation, some source => operation.name ++ " " ++ source.display
  | operation, none => operation.name

def destination (step : StepReport) : String :=
  match step.target with
  | some target => " -> " ++ target.display
  | none => ""

def headline (coloured : Bool) (step : StepReport) : String :=
  match step.outcome with
  | .success => paint coloured .green "✓" ++ " " ++ label step ++ destination step ++ "\n"
  | .warnings =>
      paint coloured .yellow "!" ++ " " ++ label step ++ destination step ++ " (with warnings)\n"
  | .failed error => paint coloured .red ("✗ " ++ error.message) ++ "\n"

/-- The diagnostics below the first line. Warnings show what the process wrote; a failure shows what
its reason carries. -/
def diagnostics (step : StepReport) : String :=
  match step.outcome with
  | .success => ""
  | .warnings => (step.completion.map Completion.stderrText).getD ""
  | .failed error => (error.reason?.bind FailureReason.stderr?).getD ""

def line (coloured : Bool) (step : StepReport) : String :=
  headline coloured step ++ closeLine (diagnostics step)

def isShown (step : StepReport) : Bool :=
  step.operation != .interact || step.outcome.isFailure

def footer (coloured : Bool) (summary : Summary) : String :=
  if 0 < summary.failures ∧ 1 < summary.steps.length then
    paint coloured .bold
      (toString summary.failures ++ " of " ++ toString summary.steps.length ++
        " steps failed") ++ "\n"
  else ""

def human (coloured : Bool) (summary : Summary) : String :=
  String.join ((summary.steps.filter isShown).map (line coloured)) ++ footer coloured summary

end CompilerDriver.Report
