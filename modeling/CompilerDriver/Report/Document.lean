import CompilerDriver.Summary
import CompilerDriver.Text.Base64

/-!
The report as one document. Bytes for standard output are embedded in base 64. A summary with a path
that is not text has no document; an empty one stands in for it.
-/

namespace CompilerDriver.Report

/-- A field for a path that may be absent; a path that is not text spoils the document. -/
def pathField? (name : String) : Option Path → Option (List (String × Json))
  | some path => path.text?.map fun text => [(name, .text text)]
  | none => some []

def targetField? : Option Target → Option (List (String × Json))
  | some target => target.toJson?.map fun json => [("target", json)]
  | none => some []

def stderr? (step : StepReport) : Option String :=
  step.completion.bind fun completion =>
    if completion.warned then some completion.stderrText else none

def stepDocument? (step : StepReport) : Option Json := do
  let source ← pathField? "source" step.source
  let target ← targetField? step.target
  return .object <|
    [("operation", .text step.operation.name), ("status", .text step.outcome.status)] ++
      source ++ target ++
      Json.field? "exit_code" (step.completion.map fun completion => .number completion.status) ++
      Json.field? "stderr" ((stderr? step).map .text) ++
      Json.field? "error" (step.outcome.error?.map fun error => .text error.message) ++
      Json.field? "stdout_base64" (step.payload?.map fun bytes => .text (Text.Base64.encode bytes))

def document? (summary : Summary) : Option Json := do
  let steps ← summary.steps.mapM stepDocument?
  return .object
    [("mode", .text summary.mode.name), ("exit_code", .number summary.exitCode),
     ("failures", .number summary.failures), ("steps", .array steps)]

def document (summary : Summary) : String :=
  ((document? summary).getD (.object [])).pretty

end CompilerDriver.Report
