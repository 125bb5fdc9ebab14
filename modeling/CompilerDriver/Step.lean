import CompilerDriver.Configuration

/-!
One external step: what it was, what came of it, and why it counts as failed. A process that ended
is classified by its exit status first and its error stream second. Launching processes is not part
of this module.
-/

namespace CompilerDriver

/-- A process that ran to its end. A status other than zero is an answer like any other here. -/
structure Completion where
  status : Int := 0
  stdout : Bytes := []
  stderr : Bytes := []
  deriving Repr, DecidableEq, Inhabited

namespace Completion

def succeeded (completion : Completion) : Bool :=
  completion.status == 0

def warned (completion : Completion) : Bool :=
  !completion.stderr.isEmpty

def stdoutText (completion : Completion) : String :=
  Text.Utf8.lossy completion.stdout

def stderrText (completion : Completion) : String :=
  Text.Utf8.lossy completion.stderr

end Completion

inductive RunError where
  | spawn (program : String) (cause : OsError)
  | timeout (program : String) (after : Duration)
  | wait (program : String) (cause : OsError)
  deriving Repr, DecidableEq, Inhabited

namespace RunError

def message : RunError → String
  | .spawn program cause => "failed to start \x60" ++ program ++ "\x60: " ++ cause.message
  | .timeout program after =>
      "\x60" ++ program ++ "\x60 did not finish within " ++ after.secondsText ++ "s"
  | .wait program cause =>
      "failed while waiting for \x60" ++ program ++ "\x60: " ++ cause.message

def causes : RunError → List String
  | .spawn _ cause | .wait _ cause => [cause.message]
  | .timeout .. => []

end RunError

inductive Operation where
  | bootstrap
  | compile (file : Path)
  | evaluate
  | interact
  deriving Repr, DecidableEq, Inhabited

def Operation.name : Operation → String
  | .bootstrap => "bootstrap"
  | .compile _ => "compile"
  | .evaluate => "evaluate"
  | .interact => "interactive"

inductive FailureReason where
  | exited (status : Int) (stderr : String)
  | timedOut (after : Duration)
  | warned (stderr : String)
  | lost (message : String)
  deriving Repr, DecidableEq, Inhabited

namespace FailureReason

def stderr? : FailureReason → Option String
  | .exited _ stderr | .warned stderr => some stderr
  | .timedOut _ | .lost _ => none

def message : FailureReason → String
  | .exited status _ => "exited with status " ++ toString status
  | .timedOut after => "timed out after " ++ after.secondsText ++ "s"
  | .warned _ => "wrote diagnostics to stderr (--fail-on-warnings)"
  | .lost message => "lost track of the process: " ++ message

def toJson : FailureReason → Json
  | .exited status stderr =>
      .object [("reason", .text "process_failure"), ("exit_code", .number status),
        ("stderr", .text stderr)]
  | .timedOut after => .object [("reason", .text "timeout"), ("after", after.toJson)]
  | .warned stderr => .object [("reason", .text "warnings"), ("stderr", .text stderr)]
  | .lost message => .object [("reason", .text "lost"), ("message", .text message)]

end FailureReason

inductive StepError where
  | config (error : ConfigError)
  | template (error : TemplateError)
  | notStarted (program : String) (cause : OsError)
  | failed (operation : Operation) (reason : FailureReason)
  | write (path : Path) (cause : OsError)
  deriving Repr, DecidableEq, Inhabited

namespace StepError

def subject : Operation → String
  | .bootstrap => "bootstrap failed"
  | .compile file => "compiling " ++ file.display ++ " failed"
  | .evaluate => "evaluation failed"
  | .interact => "interactive session failed"

def message : StepError → String
  | .config error => error.message
  | .template error => error.message
  | .notStarted program cause => (RunError.spawn program cause).message
  | .failed operation reason => subject operation ++ ": " ++ reason.message
  | .write path cause => "failed to write " ++ path.display ++ ": " ++ cause.message

def causes : StepError → List String
  | .config error => error.causes
  | .notStarted program cause => (RunError.spawn program cause).causes
  | .write _ cause => [cause.message]
  | .template _ | .failed .. => []

def reason? : StepError → Option FailureReason
  | .failed _ reason => some reason
  | _ => none

def exitCode : StepError → Nat
  | .config _ => 2
  | _ => 1

end StepError

/-- Only a spawn error means that the program never ran; the others fail the operation itself. -/
def Operation.runError (operation : Operation) : RunError → StepError
  | .spawn program cause => .notStarted program cause
  | .timeout _ after => .failed operation (.timedOut after)
  | .wait _ cause => .failed operation (.lost cause.message)

inductive Outcome where
  | success
  | warnings
  | failed (error : StepError)
  deriving Repr, DecidableEq, Inhabited

namespace Outcome

def isFailure : Outcome → Bool
  | .failed _ => true
  | _ => false

def status : Outcome → String
  | .success => "ok"
  | .warnings => "warnings"
  | .failed _ => "failed"

def error? : Outcome → Option StepError
  | .failed error => some error
  | _ => none

end Outcome

def Operation.classify (operation : Operation) (policy : WarningPolicy)
    (completion : Completion) : Outcome :=
  if !completion.succeeded then
    .failed (.failed operation (.exited completion.status completion.stderrText))
  else if !completion.warned then .success
  else
    match policy with
    | .surface => .warnings
    | .fail => .failed (.failed operation (.warned completion.stderrText))

structure StepReport where
  operation : Operation
  source : Option Path
  target : Option Target := none
  completion : Option Completion := none
  outcome : Outcome := .success
  deriving Repr, DecidableEq

namespace StepReport

/-- The report of a step that has not begun; only a compiled file is its own source. -/
def blank (operation : Operation) : StepReport :=
  { operation := operation
    source := match operation with
      | .compile file => some file
      | _ => none }

def fail (report : StepReport) (error : StepError) : StepReport :=
  { report with outcome := .failed error }

/-- The bytes that the step puts on standard output. -/
def payload? (report : StepReport) : Option Bytes :=
  match report.target, report.completion with
  | some .standardOutput, some completion =>
      if report.outcome.isFailure then none else some completion.stdout
  | _, _ => none

end CompilerDriver.StepReport
