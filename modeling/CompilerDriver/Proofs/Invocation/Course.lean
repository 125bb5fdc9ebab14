import CompilerDriver.Invocation
import CompilerDriver.Proofs.Json.Presence

/-!
The course of an invocation. It ends at once when its words are refused or its settings are; else a
run is made, and reported, with one exception: settings that were to be written out, and have no
document form, end the invocation before the run.
-/

namespace CompilerDriver.Invocation

variable {outlet : Outlet} {site : Site} {runners : Option Duration → Runner}
  {arguments : List Bytes} {world : World} {options : Options} {configuration : Configuration}

/-- The words are accepted, and their settings as well. -/
structure Settled (site : Site) (arguments : List Bytes) (options : Options)
    (configuration : Configuration) : Prop where
  parsed : Options.parse site.environment arguments = .ok options
  configured : options.configurationIn site.defaultRoot site.directory = .ok configuration

theorem performOn_of_misuse {error : UsageError}
    (refused : Options.parse site.environment arguments = .error error) :
    performOn outlet site runners arguments world = (.usage error, world) := by
  unfold performOn
  rw [refused]

theorem performOn_of_unsettled {error : ConfigError}
    (parsed : Options.parse site.environment arguments = .ok options)
    (unsettled : options.configurationIn site.defaultRoot site.directory = .error error) :
    performOn outlet site runners arguments world = (configFailure options.json error, world) := by
  unfold performOn
  rw [parsed]
  simp only [unsettled]

theorem Settled.performOn_eq (settled : Settled site arguments options configuration) :
    performOn outlet site runners arguments world =
      withConfiguration outlet options (isLogged site options) runners configuration world := by
  unfold performOn
  rw [settled.parsed]
  simp only [settled.configured]

def reportedOn (outlet : Outlet) (json : Bool) (result : Except ConfigError Summary × World) :
    Ending × World :=
  match result with
  | (.error error, next) => (configFailure json error, next)
  | (.ok summary, next) => (presentOn outlet json summary, next)

def reported : Bool → Except ConfigError Summary × World → Ending × World :=
  reportedOn .boundless

/-- A configuration that was to be written out and cannot be. -/
def IsSpoiled (logged : Bool) (configuration : Configuration) : Prop :=
  logged = true ∧ ∃ path ∈ configuration.paths, path.text? = none

theorem withConfiguration_of_spoiled {logged : Bool} (spoiled : IsSpoiled logged configuration) :
    withConfiguration outlet options logged runners configuration world =
      (trouble options.json 1 unwritable, world) := by
  unfold withConfiguration
  rw [Configuration.toJson?_eq_none_iff.mpr spoiled.2, spoiled.1]
  rfl

theorem withConfiguration_of_sound {logged : Bool} (sound : ¬IsSpoiled logged configuration) :
    withConfiguration outlet options logged runners configuration world =
      reportedOn outlet options.json
        (Run.whole configuration (runners configuration.timeout) world) := by
  have unspoiled : ¬(logged && configuration.toJson?.isNone) = true := by
    rw [Bool.and_eq_true, Option.isNone_iff_eq_none, Configuration.toJson?_eq_none_iff]
    exact sound
  unfold withConfiguration
  rw [if_neg unspoiled]
  obtain ⟨result, next⟩ := Run.whole configuration (runners configuration.timeout) world
  cases result <;> rfl

/-- Without a filter in the environment, debug records are wanted from the second wish on. -/
theorem isLogged_eq (unset : site.environment.lookup filterVariable = none) (options : Options) :
    isLogged site options = decide (2 ≤ options.verbosity) := by
  have quiet : LogFilter.wantsDebug (LogFilter.choose none "warn") configurationRecord = false ∧
      LogFilter.wantsDebug (LogFilter.choose none "info") configurationRecord = false := by
    decide +kernel
  have loud : LogFilter.wantsDebug (LogFilter.choose none "debug") configurationRecord = true ∧
      LogFilter.wantsDebug (LogFilter.choose none "trace") configurationRecord = true := by
    decide +kernel
  unfold isLogged Options.logLevel
  rw [unset]
  rcases options.verbosity with _ | _ | _ | verbosity
  · exact quiet.1
  · exact quiet.2
  · exact loud.1
  · rw [decide_eq_true (by omega)]
    exact loud.2

end CompilerDriver.Invocation
