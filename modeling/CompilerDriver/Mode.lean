import CompilerDriver.Configuration

/-!
The mode of a run. A bootstrap source rules out everything else; forms to evaluate come before
input files, and either comes before a session. The wish for a session changes nothing, because a
session is what remains.
-/

namespace CompilerDriver

inductive Mode where
  | bootstrap
  | compile (evaluates : Bool)
  | interactive
  deriving Repr, DecidableEq, Inhabited

namespace Mode

def name : Mode → String
  | .bootstrap => "bootstrap"
  | .compile false => "compile"
  | .compile true => "evaluate"
  | .interactive => "interactive"

def toJson : Mode → Json
  | .bootstrap => .object [("mode", .text "bootstrap")]
  | .compile evaluates =>
      .object [("mode", .text "compile_with_image"), ("evaluate", .boolean evaluates)]
  | .interactive => .object [("mode", .text "interactive")]

/-- A configuration that was never checked may hold both a bootstrap source and an image. -/
def resolve (configuration : Configuration) : Except ConfigError Mode :=
  match configuration.bootstrapSource, configuration.compilerImage with
  | some source, some image => .error (.conflict source image)
  | some _, none => .ok .bootstrap
  | none, _ =>
      if !configuration.forms.isEmpty then .ok (.compile true)
      else if !configuration.inputs.isEmpty then .ok (.compile false)
      else .ok .interactive

end CompilerDriver.Mode
