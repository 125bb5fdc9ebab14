import CompilerDriver.Proofs.Invocation.Course
import CompilerDriver.Proofs.Options.Leading

/-!
What the wishes for log records have to do with a run. Two lines of words that differ in nothing
else have the same run, as long as both or neither of them have the configuration written out in
vain. A configuration with a path that is not text is written out in vain: the invocation ends
there, and what would have been a run at a lower verbosity is none.
-/

namespace CompilerDriver

namespace Options

def hushed (options : Options) : Options :=
  { options with verbosity := 0 }

theorem configurationIn_hushed (options : Options) (defaultRoot : Path)
    (directory : Except OsError Path) :
    options.hushed.configurationIn defaultRoot directory =
      options.configurationIn defaultRoot directory := rfl

theorem json_hushed (options : Options) : options.hushed.json = options.json := rfl

end Options

namespace Invocation

/-- Two lines of words that ask for the same, up to the number of wishes for log records. -/
def Akin (environment : Options.Environment) (left right : List Bytes) : Prop :=
  (Options.parse environment left).map Options.hushed =
    (Options.parse environment right).map Options.hushed

/-- Words that ask for debug records about settings with a path that is not text. -/
def Spoiled (site : Site) (arguments : List Bytes) : Prop :=
  ∃ options configuration, Settled site arguments options configuration ∧
    2 ≤ options.verbosity ∧ ∃ path ∈ configuration.paths, path.text? = none

variable {outlet : Outlet} {site : Site} {runners : Option Duration → Runner} {world : World}
  {arguments left right : List Bytes} {options : Options} {configuration : Configuration}

theorem Akin.refused {error : UsageError} (akin : Akin site.environment left right)
    (refused : Options.parse site.environment left = .error error) :
    Options.parse site.environment right = .error error := by
  unfold Akin at akin
  rw [refused] at akin
  cases other : Options.parse site.environment right with
  | error same =>
      rw [other] at akin
      cases akin
      rfl
  | ok options =>
      rw [other] at akin
      cases akin

theorem Akin.parsed (akin : Akin site.environment left right)
    (parsed : Options.parse site.environment left = .ok options) :
    ∃ other, Options.parse site.environment right = .ok other ∧ other.json = options.json ∧
      other.configurationIn site.defaultRoot site.directory =
        options.configurationIn site.defaultRoot site.directory := by
  unfold Akin at akin
  rw [parsed] at akin
  cases found : Options.parse site.environment right with
  | error error =>
      rw [found] at akin
      cases akin
  | ok other =>
      rw [found] at akin
      have hushed : options.hushed = other.hushed := Except.ok.inj akin
      refine ⟨other, rfl, ?_, ?_⟩
      · rw [← Options.json_hushed, ← hushed, Options.json_hushed]
      · rw [← Options.configurationIn_hushed, ← hushed, Options.configurationIn_hushed]

theorem akin_verbosely (environment : Options.Environment) (few many : Nat)
    (arguments : List Bytes) :
    Akin environment (Options.verbosely few arguments) (Options.verbosely many arguments) := by
  unfold Akin
  rw [Options.parse_verbosely, Options.parse_verbosely]
  cases Options.parse environment arguments <;> rfl

theorem Settled.verbosely (settled : Settled site arguments options configuration) (count : Nat) :
    Settled site (Options.verbosely count arguments)
      { options with verbosity := Options.raised count options.verbosity } configuration := by
  constructor
  · rw [Options.parse_verbosely, settled.parsed]
    rfl
  · exact settled.configured

theorem Settled.spoiled_iff (settled : Settled site arguments options configuration)
    (unset : site.environment.lookup filterVariable = none) :
    Spoiled site arguments ↔ IsSpoiled (isLogged site options) configuration := by
  have logged : isLogged site options = true ↔ 2 ≤ options.verbosity := by
    rw [isLogged_eq unset, decide_eq_true_iff]
  unfold IsSpoiled
  rw [logged]
  constructor
  · rintro ⟨found, kept, same, loud, unwritten⟩
    cases same.parsed.symm.trans settled.parsed
    cases same.configured.symm.trans settled.configured
    exact ⟨loud, unwritten⟩
  · rintro ⟨loud, unwritten⟩
    exact ⟨options, configuration, settled, loud, unwritten⟩

theorem Settled.performOn_of_spoiled (settled : Settled site arguments options configuration)
    (unset : site.environment.lookup filterVariable = none) (spoiled : Spoiled site arguments) :
    performOn outlet site runners arguments world = (trouble options.json 1 unwritable, world) := by
  rw [settled.performOn_eq]
  exact withConfiguration_of_spoiled ((settled.spoiled_iff unset).mp spoiled)

theorem Settled.performOn_of_sound (settled : Settled site arguments options configuration)
    (unset : site.environment.lookup filterVariable = none) (sound : ¬Spoiled site arguments) :
    performOn outlet site runners arguments world =
      reportedOn outlet options.json
        (Run.whole configuration (runners configuration.timeout) world) := by
  rw [settled.performOn_eq]
  exact withConfiguration_of_sound fun spoiled => sound ((settled.spoiled_iff unset).mpr spoiled)

theorem Akin.performOn_eq (akin : Akin site.environment left right)
    (unset : site.environment.lookup filterVariable = none)
    (alike : Spoiled site left ↔ Spoiled site right) :
    performOn outlet site runners left world = performOn outlet site runners right world := by
  cases parsed : Options.parse site.environment left with
  | error error =>
      rw [performOn_of_misuse parsed, performOn_of_misuse (akin.refused parsed)]
  | ok options =>
      obtain ⟨other, again, json, configured⟩ := akin.parsed parsed
      cases result : options.configurationIn site.defaultRoot site.directory with
      | error error =>
          rw [result] at configured
          rw [performOn_of_unsettled parsed result, performOn_of_unsettled again configured, json]
      | ok configuration =>
          rw [result] at configured
          have first : Settled site left options configuration := ⟨parsed, result⟩
          have second : Settled site right other configuration := ⟨again, configured⟩
          by_cases spoiled : Spoiled site left
          · rw [first.performOn_of_spoiled unset spoiled,
              second.performOn_of_spoiled unset (alike.mp spoiled), json]
          · rw [first.performOn_of_sound unset spoiled,
              second.performOn_of_sound unset fun other => spoiled (alike.mpr other), json]

/-- Lines of words that differ only in their wishes for log records come to the same ending and
leave the same world behind, unless one of them is spoiled and the other is not. A spoiled line
fails and leaves the world as it was; any other one that is accepted makes its run. -/
theorem alike_unless_spoiled (site : Site) (runners : Option Duration → Runner) (world : World)
    (unset : site.environment.lookup filterVariable = none) :
    (∀ few many arguments,
      Akin site.environment (Options.verbosely few arguments) (Options.verbosely many arguments)) ∧
    (∀ left right, Akin site.environment left right →
      (Spoiled site left ↔ Spoiled site right) →
        perform site runners left world = perform site runners right world) ∧
    (∀ arguments options configuration, Settled site arguments options configuration →
      (Spoiled site arguments →
        perform site runners arguments world = (trouble options.json 1 unwritable, world)) ∧
      (¬Spoiled site arguments →
        perform site runners arguments world =
          reported options.json
            (Run.whole configuration (runners configuration.timeout) world))) := by
  refine ⟨akin_verbosely site.environment, ?_, ?_⟩
  · intro left right akin alike
    exact akin.performOn_eq unset alike
  · intro arguments options configuration settled
    exact ⟨settled.performOn_of_spoiled unset, settled.performOn_of_sound unset⟩

def rootSite : Site :=
  { directory := .ok (.ofText "/"), defaultRoot := .ofText "/" }

def printing (file : Bytes) : List Bytes :=
  [Bytes.ofText "-I", Bytes.ofText "i", Bytes.ofText "-o", Bytes.ofText "-", file]

def printingOf (file : Bytes) : Configuration :=
  { compilerImage := some (.ofText "/i")
    template := "-"
    inputs := [⟨file⟩]
    toolchain := .standard (.ofText "/") }

def printer : Option Duration → Runner := fun _ _ tree =>
  { duration := 0, answer := .ok { stdout := Bytes.ofText "M" }, tree := tree }

def bareWorld : World :=
  { tree := { entries := [] } }

def plainName : Bytes := Bytes.ofText "a.ss"

def strayName : Bytes := 0xFF :: Bytes.ofText ".ss"

def printingOptions (file : Bytes) : Options :=
  { image := some (.ofText "i"), template := "-", files := [⟨file⟩] }

theorem plainName_settled :
    Settled rootSite (printing plainName) (printingOptions plainName) (printingOf plainName) :=
  ⟨by decide +kernel, by decide +kernel⟩

/-- A file whose name is text is compiled all the same when debug records are wanted. -/
theorem plainName_alike :
    perform rootSite printer (Options.verbosely 0 (printing plainName)) bareWorld =
      perform rootSite printer (Options.verbosely 2 (printing plainName)) bareWorld := by
  have sound : ∀ count, ¬Spoiled rootSite (Options.verbosely count (printing plainName)) := by
    intro count spoiled
    have unwritten := ((plainName_settled.verbosely count).spoiled_iff rfl).mp spoiled
    exact absurd unwritten.2 (by decide +kernel)
  obtain ⟨akin, alike, _⟩ := alike_unless_spoiled rootSite printer bareWorld rfl
  exact alike _ _ (akin 0 2 _) (iff_of_false (sound 0) (sound 2))

/-- A file whose name is not text is compiled without log records, and not compiled with them. -/
theorem strayName_differs :
    rootSite.environment.lookup filterVariable = none ∧
      (perform rootSite printer (Options.verbosely 0 (printing strayName)) bareWorld).1.status = 0 ∧
      (perform rootSite printer (Options.verbosely 2 (printing strayName)) bareWorld).1.status = 1 ∧
      (perform rootSite printer (Options.verbosely 0 (printing strayName)) bareWorld).2.launched =
        [(printingOf strayName).toolchain.launcherCommand .node .compile (.ofText "/i") [strayName]] ∧
      (perform rootSite printer (Options.verbosely 2 (printing strayName)) bareWorld).2.launched =
        [] := by
  decide +kernel

end Invocation

end CompilerDriver
