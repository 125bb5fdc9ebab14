import CompilerDriver.Options.Value

/-!
The options collected so far. An absent option is told from one that was given, because only an
absent one may be filled from the environment, and only those still absent then take their usual
values.
-/

namespace CompilerDriver

structure Options where
  bootstrap : Option (Option Path) := none
  image : Option Path := none
  stage : Option Nat := none
  interactive : Bool := false
  forms : List String := []
  template : String := Template.fallback
  runtime : Runtime := .node
  jobs : Nat := 1
  timeout : Option Nat := none
  failOnWarnings : Bool := false
  root : Option Path := none
  host : Option Path := none
  node : Option Path := none
  launcher : Option Path := none
  json : Bool := false
  verbosity : Nat := 0
  files : List Path := []
  deriving Repr, DecidableEq, Inhabited

namespace Options

structure Draft where
  bootstrap : Option (Option Path) := none
  image : Option Path := none
  stage : Option Nat := none
  interactive : Option Bool := none
  forms : List String := []
  template : Option String := none
  runtime : Option Runtime := none
  jobs : Option Nat := none
  timeout : Option Nat := none
  failOnWarnings : Option Bool := none
  root : Option Path := none
  host : Option Path := none
  node : Option Path := none
  launcher : Option Path := none
  json : Option Bool := none
  verbosity : Nat := 0
  files : List Path := []
  deriving Repr, DecidableEq, Inhabited

namespace Draft

def holds (draft : Draft) : Flag → Bool
  | .bootstrap => draft.bootstrap.isSome
  | .image => draft.image.isSome
  | .stage => draft.stage.isSome
  | .interactive => draft.interactive.isSome
  | .template => draft.template.isSome
  | .runtime => draft.runtime.isSome
  | .jobs => draft.jobs.isSome
  | .timeout => draft.timeout.isSome
  | .failOnWarnings => draft.failOnWarnings.isSome
  | .root => draft.root.isSome
  | .host => draft.host.isSome
  | .node => draft.node.isSome
  | .launcher => draft.launcher.isSome
  | .json => draft.json.isSome
  | .evaluate | .verbose | .help | .version => false

def verbosityLimit : Nat := 255

def mark (draft : Draft) : Flag → Except UsageError Draft
  | .bootstrap => .ok { draft with bootstrap := some none }
  | .interactive => .ok { draft with interactive := some true }
  | .failOnWarnings => .ok { draft with failOnWarnings := some true }
  | .json => .ok { draft with json := some true }
  | .verbose => .ok { draft with verbosity := min (draft.verbosity + 1) verbosityLimit }
  | .help => .error .helpWanted
  | .version => .error .versionWanted
  | .image | .stage | .evaluate | .template | .runtime | .jobs | .timeout | .root | .host | .node
  | .launcher => .error .invalidValue

def store (draft : Draft) (flag : Flag) (raw : Bytes) : Except UsageError Draft :=
  match flag with
  | .bootstrap => (Value.path raw).map fun path => { draft with bootstrap := some (some path) }
  | .image => (Value.path raw).map fun path => { draft with image := some path }
  | .stage => (Value.stage raw).map fun stage => { draft with stage := some stage }
  | .interactive => (Value.switch raw).map fun on => { draft with interactive := some on }
  | .evaluate => (Value.text raw).map fun form => { draft with forms := draft.forms ++ [form] }
  | .template => (Value.text raw).map fun template => { draft with template := some template }
  | .runtime => (Value.runtime raw).map fun runtime => { draft with runtime := some runtime }
  | .jobs => (Value.count raw).map fun jobs => { draft with jobs := some jobs }
  | .timeout => (Value.count raw).map fun seconds => { draft with timeout := some seconds }
  | .failOnWarnings => (Value.switch raw).map fun on => { draft with failOnWarnings := some on }
  | .root => (Value.path raw).map fun path => { draft with root := some path }
  | .host => (Value.path raw).map fun path => { draft with host := some path }
  | .node => (Value.path raw).map fun path => { draft with node := some path }
  | .launcher => (Value.path raw).map fun path => { draft with launcher := some path }
  | .json | .verbose | .help | .version => .error .needlessValue

/-- Takes an option from the command line. A missing value is noticed before a repetition, and a
repetition before a value that cannot be read. -/
def accept (draft : Draft) (flag : Flag) (value : Option Bytes) : Except UsageError Draft :=
  if flag.arity = .one ∧ value = none then .error .invalidValue
  else if draft.holds flag then .error .repeated
  else
    match value with
    | some raw => draft.store flag raw
    | none => draft.mark flag

def addFile (draft : Draft) (raw : Bytes) : Except UsageError Draft :=
  (Value.path raw).map fun path => { draft with files := draft.files ++ [path] }

def addFiles (draft : Draft) : List Bytes → Except UsageError Draft
  | [] => .ok draft
  | raw :: rest =>
      match draft.addFile raw with
      | .ok next => next.addFiles rest
      | .error error => .error error

def complete (draft : Draft) : Options :=
  { bootstrap := draft.bootstrap
    image := draft.image
    stage := draft.stage
    interactive := draft.interactive.getD false
    forms := draft.forms
    template := draft.template.getD Template.fallback
    runtime := draft.runtime.getD .node
    jobs := draft.jobs.getD 1
    timeout := draft.timeout
    failOnWarnings := draft.failOnWarnings.getD false
    root := draft.root
    host := draft.host
    node := draft.node
    launcher := draft.launcher
    json := draft.json.getD false
    verbosity := draft.verbosity
    files := draft.files }

end CompilerDriver.Options.Draft
