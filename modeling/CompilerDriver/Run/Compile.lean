import CompilerDriver.World

/-!
The compile step of one file, in two halves around its call. The first half names the target and
starts the call; the second classifies what came back and writes the module. A file whose target has
no name makes no call.
-/

namespace CompilerDriver.Run

structure Compiling where
  file : Path
  target : Target
  flight : Flight

def compileCommand (configuration : Configuration) (image file : Path) : Command :=
  configuration.toolchain.launcherCommand configuration.runtime .compile image [file.bytes]

/-- Starts the step of a file, or reports at once that its target has no name. -/
def beginCompile (configuration : Configuration) (image : Path) (runner : Runner) (file : Path)
    (world : World) : (StepReport ⊕ Compiling) × World :=
  match Template.outputFor configuration.template file with
  | .error error => (.inl ((StepReport.blank (.compile file)).fail (.template error)), world)
  | .ok target =>
      let command := compileCommand configuration image file
      let noted := world.log
        { level := .info
          message := "compiling " ++ file.display
          fields := [("command", .text command.display)] }
      let (flight, started) := noted.launch runner false command
      (.inr { file := file, target := target, flight := flight }, started)

/-- Writes the module of a step that has not failed, when it goes to a file. -/
def deliver (target : Target) (completion : Completion) (outcome : Outcome) (world : World) :
    Outcome × World :=
  match outcome, target with
  | .failed error, _ => (.failed error, world)
  | outcome, .standardOutput => (outcome, world)
  | outcome, .file path =>
      match world.tree.writeProduct path completion.stdout with
      | (some cause, tree) => (.failed (.write path cause), { world with tree := tree })
      | (none, tree) =>
          (outcome,
            World.log { world with tree := tree }
              { level := .debug
                message := "wrote module"
                fields :=
                  [("path", .text path.display), ("bytes", .number completion.stdout.length)] })

def endCompile (configuration : Configuration) (step : Compiling) (world : World) :
    StepReport × World :=
  let operation : Operation := .compile step.file
  let blank : StepReport := { StepReport.blank operation with target := some step.target }
  let landed := world.land step.flight
  match step.flight.answer with
  | .error error => (blank.fail (operation.runError error), landed)
  | .ok completion =>
      let (outcome, delivered) :=
        deliver step.target completion (operation.classify configuration.warnings completion) landed
      ({ blank with completion := some completion, outcome := outcome }, delivered)

def compileAlone (configuration : Configuration) (image : Path) (runner : Runner) (file : Path)
    (world : World) : StepReport × World :=
  match beginCompile configuration image runner file world with
  | (.inl report, next) => (report, next)
  | (.inr step, next) => endCompile configuration step next

end CompilerDriver.Run
