import CompilerDriver.World

/-!
The steps that stand alone: the bootstrap of a compiler image, the evaluation of forms, and a
session at the terminal. None of them writes a file itself.
-/

namespace CompilerDriver.Run

def noteOutput (target : Target) (completion : Completion) (world : World) : World :=
  if !target.isStandardOutput && !completion.stdout.isEmpty then
    world.log
      { level := .info
        message := "bootstrap output"
        fields := [("stdout", .text (Text.trimEnd completion.stdoutText))] }
  else world

/-- Has the host run the shim on the source. Only a missing source is an error; every other failure
is part of the report. -/
def bootstrap (configuration : Configuration) (runner : Runner) (world : World) :
    Except ConfigError StepReport × World :=
  match configuration.source with
  | .error error => (.error error, world)
  | .ok source =>
      let sourced : StepReport := { StepReport.blank .bootstrap with source := some source }
      match Template.outputFor configuration.template source with
      | .error error => (.ok (sourced.fail (.template error)), world)
      | .ok target =>
          let report := { sourced with target := some target }
          let command := configuration.toolchain.bootstrapCommand target source
          let noted := world.log
            { level := .info
              message := "bootstrapping compiler"
              fields := [("command", .text command.display)] }
          match noted.run runner false command with
          | (.error error, next) => (.ok (report.fail (Operation.bootstrap.runError error)), next)
          | (.ok completion, next) =>
              (.ok
                { report with
                  completion := some completion
                  outcome := Operation.bootstrap.classify configuration.warnings completion },
                noteOutput target completion next)

def evaluate (configuration : Configuration) (runner : Runner) (world : World) :
    Except ConfigError StepReport × World :=
  match configuration.image with
  | .error error => (.error error, world)
  | .ok image =>
      let report : StepReport :=
        { StepReport.blank .evaluate with target := some .standardOutput }
      let command := configuration.toolchain.launcherCommand configuration.runtime .evaluate image
        (configuration.forms.map Text.Utf8.encode)
      let noted := world.log
        { level := .info
          message := "evaluating"
          fields :=
            [("command", .text command.display), ("forms", .number configuration.forms.length)] }
      match noted.run runner false command with
      | (.error error, next) => (.ok (report.fail (Operation.evaluate.runError error)), next)
      | (.ok completion, next) =>
          (.ok
            { report with
              completion := some completion
              outcome := Operation.evaluate.classify configuration.warnings completion },
            next)

/-- A session that ends with a status other than zero failed; it has no error stream to show. -/
def sessionReport (answer : Except RunError Completion) : StepReport :=
  let report := StepReport.blank .interact
  match answer with
  | .error error => report.fail (Operation.interact.runError error)
  | .ok completion =>
      if completion.status = 0 then report
      else report.fail (.failed .interact (.exited completion.status ""))

def interact (configuration : Configuration) (runner : Runner) (world : World) :
    Except ConfigError StepReport × World :=
  match configuration.image with
  | .error error => (.error error, world)
  | .ok image =>
      let command :=
        configuration.toolchain.launcherCommand configuration.runtime .interact image []
      let noted := world.log
        { level := .info
          message := "starting interactive session"
          fields := [("command", .text command.display)] }
      let (answer, next) := noted.run runner true command
      (.ok (sessionReport answer), next)

end CompilerDriver.Run
