import CompilerDriver.LogFilter
import CompilerDriver.Options.Parse
import CompilerDriver.Options.Request
import CompilerDriver.Report.Document
import CompilerDriver.Report.Trouble
import CompilerDriver.Run.Whole

/-!
One invocation of the command, from its words to its exit status and what it prints. Log records are
kept in the world and not printed. When debug records are wanted, the configuration is written out
first, and a configuration that has no document form ends the invocation there. Of standard output
it matters how it takes the products of a run; that it takes documents, and that the error stream
takes reports, is presupposed.
-/

namespace CompilerDriver

structure Site where
  directory : Except OsError Path
  defaultRoot : Path
  environment : Options.Environment := []

/-- How an invocation ends. A command line that asks for no run prints nothing here. -/
inductive Ending where
  | usage (error : UsageError)
  | finished (status : Nat) (stdout stderr : Bytes)
  deriving Repr, DecidableEq

namespace Ending

def status : Ending → Nat
  | .usage error => error.exitCode
  | .finished status _ _ => status

end Ending

namespace Invocation

/-- The record of the configuration of a run, which the command itself writes. -/
def configurationRecord : LogFilter.Record :=
  { source := "schism", fields := ["message", "config"] }

def filterVariable : String := "RUST_LOG"

def trouble (json : Bool) (status : Nat) (trouble : Report.Trouble) : Ending :=
  if json then .finished status (Bytes.ofText (trouble.document ++ "\n")) []
  else .finished status [] (Bytes.ofText (trouble.human false))

def configFailure (json : Bool) (error : ConfigError) : Ending :=
  trouble json 2 (.ofConfigError error)

def unwritable : Report.Trouble :=
  { message := "path contains invalid UTF-8 characters" }

/-- What becomes of byte strings that go to standard output one after the other: the bytes that it
took and, if these are not all of them, why. -/
abbrev Outlet : Type :=
  List Bytes → Bytes × Option OsError

def Outlet.boundless : Outlet := fun payloads => (payloads.flatten, none)

def unprinted (cause : OsError) : Report.Trouble :=
  Report.Trouble.within { message := cause.message } "failed to write to stdout"

/-- The report of a run. When its products cannot be printed, that is all that is reported. -/
def presentOn (outlet : Outlet) (json : Bool) (summary : Summary) : Ending :=
  if json then .finished summary.exitCode (Bytes.ofText (Report.document summary ++ "\n")) []
  else
    match outlet summary.payloads with
    | (printed, none) =>
        .finished summary.exitCode printed (Bytes.ofText (Report.human false summary))
    | (printed, some cause) => .finished 1 printed (Bytes.ofText ((unprinted cause).human false))

def present : Bool → Summary → Ending :=
  presentOn .boundless

/-- Whether the configuration has to be written out before the run. -/
def isLogged (site : Site) (options : Options) : Bool :=
  (LogFilter.choose (site.environment.lookup filterVariable) options.logLevel).wantsDebug
    configurationRecord

def withConfiguration (outlet : Outlet) (options : Options) (logged : Bool)
    (runners : Option Duration → Runner) (configuration : Configuration) (world : World) :
    Ending × World :=
  if logged && configuration.toJson?.isNone then (trouble options.json 1 unwritable, world)
  else
    match Run.whole configuration (runners configuration.timeout) world with
    | (.error error, next) => (configFailure options.json error, next)
    | (.ok summary, next) => (presentOn outlet options.json summary, next)

/-- Carries out an invocation on a standard output. `runners` gives the runner for a time limit. -/
def performOn (outlet : Outlet) (site : Site) (runners : Option Duration → Runner)
    (arguments : List Bytes) (world : World) : Ending × World :=
  match Options.parse site.environment arguments with
  | .error error => (.usage error, world)
  | .ok options =>
      match options.configurationIn site.defaultRoot site.directory with
      | .error error => (configFailure options.json error, world)
      | .ok configuration =>
          withConfiguration outlet options (isLogged site options) runners configuration world

def perform : Site → (Option Duration → Runner) → List Bytes → World → Ending × World :=
  performOn .boundless

end CompilerDriver.Invocation
