import CompilerDriver.Duration
import CompilerDriver.OsError
import CompilerDriver.Toolchain

/-!
The settings of one run, and the request they are made from. A request holds whatever was asked
for; `Request.check` is the one place where it is refused or becomes a configuration.
-/

namespace CompilerDriver

inductive ConfigError where
  | conflict (bootstrap image : Path)
  | template (error : TemplateError)
  | noJobs
  | missingImage
  | missingSource
  | currentDirectory (cause : OsError)
  deriving Repr, DecidableEq, Inhabited

namespace ConfigError

def message : ConfigError → String
  | .conflict bootstrap image =>
      "conflicting options: --bootstrap (" ++ bootstrap.display ++ ") and --compiler-image (" ++
        image.display ++ ") are mutually exclusive"
  | .template error => error.message
  | .noJobs => "--jobs must be at least 1"
  | .missingImage =>
      "no compiler image configured: pass --compiler-image or --stage, or set " ++
        "SCHISM_COMPILER_IMAGE"
  | .missingSource => "no bootstrap source configured: pass --bootstrap or set SCHISM_BOOTSTRAP"
  | .currentDirectory cause => "failed to determine the current directory: " ++ cause.message

def causes : ConfigError → List String
  | .currentDirectory cause => [cause.message]
  | _ => []

end ConfigError

/-- What a process that succeeded but wrote to its error stream counts as. -/
inductive WarningPolicy where
  | surface
  | fail
  deriving Repr, DecidableEq, Inhabited

def WarningPolicy.name : WarningPolicy → String
  | .surface => "surface"
  | .fail => "fail"

structure Configuration where
  bootstrapSource : Option Path := none
  compilerImage : Option Path := none
  interactive : Bool := false
  forms : List String := []
  template : String := Template.fallback
  runtime : Runtime := .node
  inputs : List Path := []
  jobs : Nat := 1
  timeout : Option Duration := none
  warnings : WarningPolicy := .surface
  toolchain : Toolchain
  deriving Repr, DecidableEq

namespace Configuration

def image (configuration : Configuration) : Except ConfigError Path :=
  match configuration.compilerImage with
  | some image => .ok image
  | none => .error .missingImage

def source (configuration : Configuration) : Except ConfigError Path :=
  match configuration.bootstrapSource with
  | some source => .ok source
  | none => .error .missingSource

/-- An absent path is null; a path that is not text has no document form. -/
def pathJson? : Option Path → Option Json
  | some path => path.text?.map .text
  | none => some .null

def toJson? (configuration : Configuration) : Option Json := do
  let bootstrap ← pathJson? configuration.bootstrapSource
  let image ← pathJson? configuration.compilerImage
  let inputs ← configuration.inputs.mapM Path.text?
  let toolchain ← configuration.toolchain.toJson?
  return .object
    [("bootstrap_source", bootstrap),
     ("compiler_image", image),
     ("interactive_forced", .boolean configuration.interactive),
     ("evaluate_forms", .array (configuration.forms.map .text)),
     ("output_template", .text configuration.template),
     ("runtime", .text configuration.runtime.name),
     ("input_files", .array (inputs.map .text)),
     ("jobs", .number configuration.jobs),
     ("timeout", (configuration.timeout.map Duration.toJson).getD .null),
     ("warnings", .text configuration.warnings.name),
     ("toolchain", toolchain)]

end Configuration

/-- What was asked for. `bootstrap` tells a bootstrap of the usual source, `some none`, from none at
all. -/
structure Request where
  bootstrap : Option (Option Path) := none
  image : Option Path := none
  stage : Option Nat := none
  interactive : Bool := false
  forms : List String := []
  template : Option String := none
  runtime : Runtime := .node
  inputs : List Path := []
  jobs : Option Nat := none
  timeout : Option Duration := none
  warnings : WarningPolicy := .surface
  toolchain : Toolchain
  deriving Repr, DecidableEq

inductive Wish where
  | bootstrap (source : Option (Option Path))
  | image (path : Option Path)
  | stage (number : Option Nat)
  | interactive (wanted : Bool)
  | forms (forms : List String)
  | template (template : String)
  | runtime (runtime : Runtime)
  | inputs (files : List Path)
  | jobs (number : Nat)
  | timeout (limit : Option Duration)
  | warnings (policy : WarningPolicy)
  | toolchain (toolchain : Toolchain)
  deriving Repr, DecidableEq

namespace Request

/-- A wish takes the place of an earlier one of its kind. -/
def wish (request : Request) : Wish → Request
  | .bootstrap source => { request with bootstrap := source }
  | .image path => { request with image := path }
  | .stage number => { request with stage := number }
  | .interactive wanted => { request with interactive := wanted }
  | .forms forms => { request with forms := forms }
  | .template template => { request with template := some template }
  | .runtime runtime => { request with runtime := runtime }
  | .inputs files => { request with inputs := files }
  | .jobs number => { request with jobs := some number }
  | .timeout limit => { request with timeout := limit }
  | .warnings policy => { request with warnings := policy }
  | .toolchain toolchain => { request with toolchain := toolchain }

def ofWishes (root : Path) (wishes : List Wish) : Request :=
  wishes.foldl wish { toolchain := .standard root }

def bootstrapSource? (request : Request) (directory : Path) : Option Path :=
  request.bootstrap.map fun source =>
    directory.anchor (source.getD request.toolchain.compilerSource)

def namedImage? (request : Request) (directory : Path) : Option Path :=
  request.image.map directory.anchor

/-- The image of the stage asked for, below the toolchain's root as it stands. -/
def stagedImage? (request : Request) : Option Path :=
  request.stage.map request.toolchain.stagedImage

/-- The template and the number of jobs, checked in this order. -/
def limits (request : Request) : Except ConfigError (String × Nat) :=
  let template := request.template.getD Template.fallback
  match Template.validate template with
  | .error error => .error (.template error)
  | .ok () =>
      let jobs := request.jobs.getD 1
      if jobs = 0 then .error .noJobs else .ok (template, jobs)

/-- A stage counts only when neither a bootstrap nor an image was named. -/
def check (request : Request) (directory : Path) : Except ConfigError Configuration :=
  let settle (bootstrap image : Option Path) : Except ConfigError Configuration :=
    match request.limits with
    | .error error => .error error
    | .ok (template, jobs) =>
        .ok
          { bootstrapSource := bootstrap
            compilerImage := image
            interactive := request.interactive
            forms := request.forms
            template := template
            runtime := request.runtime
            inputs := request.inputs
            jobs := jobs
            timeout := request.timeout
            warnings := request.warnings
            toolchain := request.toolchain }
  match request.bootstrapSource? directory, request.namedImage? directory with
  | some bootstrap, some image => .error (.conflict bootstrap image)
  | some bootstrap, none => settle (some bootstrap) none
  | none, some image => settle none (some image)
  | none, none => settle none request.stagedImage?

end CompilerDriver.Request
