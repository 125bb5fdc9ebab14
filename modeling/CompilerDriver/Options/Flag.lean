import CompilerDriver.Text.Utf8

/-!
The options of the command line: their names, whether they take a value, and the environment
variable that stands in for an absent one. Each refusal of a command line is a cause of its own; its
wording is not part of this library.
-/

namespace CompilerDriver

/-- Why a command line asks for something else than a run. -/
inductive UsageError where
  | helpWanted
  | versionWanted
  | unknownArgument
  | invalidValue
  | unreadableNumber
  | repeated
  | needlessValue
  | notText
  deriving Repr, DecidableEq, Inhabited

/-- Help and version are answers; everything else is a misuse. -/
def UsageError.exitCode : UsageError → Nat
  | .helpWanted | .versionWanted => 0
  | _ => 2

inductive Arity where
  | none
  | optional
  | one
  deriving Repr, DecidableEq

inductive Flag where
  | bootstrap
  | image
  | stage
  | interactive
  | evaluate
  | template
  | runtime
  | jobs
  | timeout
  | failOnWarnings
  | root
  | host
  | node
  | launcher
  | json
  | verbose
  | help
  | version
  deriving Repr, DecidableEq, Inhabited

namespace Flag

def all : List Flag :=
  [.bootstrap, .image, .stage, .interactive, .evaluate, .template, .runtime, .jobs, .timeout,
   .failOnWarnings, .root, .host, .node, .launcher, .json, .verbose, .help, .version]

def long : Flag → String
  | .bootstrap => "bootstrap"
  | .image => "compiler-image"
  | .stage => "stage"
  | .interactive => "interactive"
  | .evaluate => "evaluate"
  | .template => "output-template"
  | .runtime => "runtime"
  | .jobs => "jobs"
  | .timeout => "timeout-secs"
  | .failOnWarnings => "fail-on-warnings"
  | .root => "root"
  | .host => "guile"
  | .node => "node"
  | .launcher => "launcher"
  | .json => "json"
  | .verbose => "verbose"
  | .help => "help"
  | .version => "version"

def short? : Flag → Option Char
  | .bootstrap => some 'b'
  | .image => some 'I'
  | .interactive => some 'i'
  | .evaluate => some 'e'
  | .template => some 'o'
  | .runtime => some 'r'
  | .jobs => some 'j'
  | .verbose => some 'v'
  | .help => some 'h'
  | .version => some 'V'
  | .stage | .timeout | .failOnWarnings | .root | .host | .node | .launcher | .json => none

def arity : Flag → Arity
  | .bootstrap => .optional
  | .interactive | .failOnWarnings | .json | .verbose | .help | .version => .none
  | _ => .one

def environmentName? : Flag → Option String
  | .bootstrap => some "SCHISM_BOOTSTRAP"
  | .image => some "SCHISM_COMPILER_IMAGE"
  | .stage => some "SCHISM_STAGE"
  | .interactive => some "SCHISM_INTERACTIVE"
  | .template => some "SCHISM_OUTPUT_TEMPLATE"
  | .runtime => some "SCHISM_RUNTIME"
  | .jobs => some "SCHISM_JOBS"
  | .timeout => some "SCHISM_TIMEOUT_SECS"
  | .failOnWarnings => some "SCHISM_FAIL_ON_WARNINGS"
  | .root => some "SCHISM_ROOT"
  | .host => some "SCHISM_GUILE"
  | .node => some "SCHISM_NODE"
  | .launcher => some "SCHISM_LAUNCHER"
  | .evaluate | .json | .verbose | .help | .version => none

def ofLong? (name : Bytes) : Option Flag :=
  all.find? fun flag => Bytes.ofText flag.long == name

def ofShort? (byte : UInt8) : Option Flag :=
  all.find? fun flag => flag.short?.map Text.Utf8.encodeChar == some [byte]

end CompilerDriver.Flag
