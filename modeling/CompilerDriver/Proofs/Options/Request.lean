import CompilerDriver.Options.Request
import CompilerDriver.Proofs.Configuration

/-!
The paths of an invocation. Its toolchain has one root, the one that was given as seen from the
working directory or else the default one, and whatever is not given by a path of its own lies below
that root. An invocation whose paths have been made absolute means the same in every directory.
-/

namespace CompilerDriver.Options

variable {options : Options} {defaultRoot directory : Path} {configuration : Configuration}

theorem isStraight_root (absolute : directory.isAbsolute = true) (rooted : defaultRoot.IsStraight)
    (options : Options) : (options.toolchain defaultRoot directory).root.IsStraight := by
  change ((options.root.map directory.anchor).getD defaultRoot).IsStraight
  cases options.root with
  | none => exact rooted
  | some root => exact (Path.isNormal_anchor absolute root).isStraight

theorem holds_shim (options : Options)
    (straight : (options.toolchain defaultRoot directory).root.IsStraight) :
    (options.toolchain defaultRoot directory).Holds
      (options.toolchain defaultRoot directory).shim :=
  Toolchain.holds_library Toolchain.isOnward_shim straight

theorem launcher_of_given {launcher : Path} (given : options.launcher = some launcher) :
    (options.toolchain defaultRoot directory).launcher = directory.anchor launcher := by
  unfold toolchain Toolchain.withLauncher
  rw [given]
  rfl

theorem holds_launcher (absent : options.launcher = none)
    (straight : (options.toolchain defaultRoot directory).root.IsStraight) :
    (options.toolchain defaultRoot directory).Holds
      (options.toolchain defaultRoot directory).launcher := by
  have usual := Toolchain.holds_library Toolchain.isOnward_launcher straight
  have own : (options.toolchain defaultRoot directory).launcher =
      (Toolchain.library (options.toolchain defaultRoot directory).root).join
        (.ofText "schism-node.mjs") := by
    unfold toolchain Toolchain.withLauncher
    rw [absent]
    rfl
  rw [own]
  exact usual

variable (options defaultRoot directory configuration) in
/-- Where the paths of the configuration of an invocation are. -/
structure Situates : Prop where
  root : configuration.toolchain.root = (options.root.map directory.anchor).getD defaultRoot
  rootStraight : configuration.toolchain.root.IsStraight
  shim : configuration.toolchain.Holds configuration.toolchain.shim
  launcherStraight : configuration.toolchain.launcher.IsStraight
  launcherGiven : ∀ launcher, options.launcher = some launcher →
    configuration.toolchain.launcher = directory.anchor launcher
  launcherUsual : options.launcher = none →
    configuration.toolchain.Holds configuration.toolchain.launcher
  image : options.image = none → ∀ image, configuration.compilerImage = some image →
    configuration.toolchain.Holds image
  staged : options.image = none → options.bootstrap = none → options.stage ≠ none →
    configuration.compilerImage ≠ none
  source : options.bootstrap = some none → ∃ source,
    configuration.bootstrapSource = some source ∧ configuration.toolchain.Holds source

theorem holds_usualSource (absolute : directory.isAbsolute = true)
    (usual : options.bootstrap = some none)
    (straight : (options.toolchain defaultRoot directory).root.IsStraight) :
    ∃ source, (options.request defaultRoot directory).bootstrapSource? directory = some source ∧
      (options.toolchain defaultRoot directory).Holds source := by
  have own := Toolchain.holds_library Toolchain.isOnward_compilerSource straight
  refine ⟨_, congrArg (Option.map _) usual, (Path.isNormal_anchor absolute _).isStraight, ?_⟩
  exact own.2.anchor own.1 absolute

theorem situates_of_configuration (absolute : directory.isAbsolute = true)
    (rooted : defaultRoot.IsStraight)
    (accepted : options.configuration defaultRoot directory = .ok configuration) :
    options.Situates defaultRoot directory configuration := by
  have straight := isStraight_root absolute rooted options
  obtain ⟨_, _, _, rfl⟩ := Request.settled_of_check accepted
  refine ⟨rfl, straight, holds_shim options straight, ?_, fun _ => launcher_of_given,
    fun absent => holds_launcher absent straight, ?_, ?_, ?_⟩
  · change (options.toolchain defaultRoot directory).launcher.IsStraight
    cases given : options.launcher with
    | none => exact (holds_launcher given straight).1
    | some launcher =>
        rw [launcher_of_given given]
        exact (Path.isNormal_anchor absolute launcher).isStraight
  · intro imageless image chosen
    rcases Request.chosenImage?_cases chosen with ⟨named, imaged, _⟩ | ⟨_, stage, _, rfl⟩
    · exact absurd (imageless.symm.trans imaged) nofun
    · exact Toolchain.holds_stagedImage straight stage
  · intro imageless sourceless wanted
    have staged : (options.request defaultRoot directory).IsStaged :=
      ⟨sourceless, imageless, wanted⟩
    obtain ⟨stage, _, chosen⟩ := Request.chosenImage?_of_staged directory staged
    exact fun nothing => absurd (chosen.symm.trans nothing) nofun
  · exact fun usual => holds_usualSource absolute usual straight

/-- The same options, with their paths made absolute. Programs are not paths of this kind. -/
def anchored (options : Options) (directory : Path) : Options :=
  { options with
    bootstrap := options.bootstrap.map fun source => source.map directory.anchor
    image := options.image.map directory.anchor
    root := options.root.map directory.anchor
    launcher := options.launcher.map directory.anchor }

theorem toolchain_anchored (absolute : directory.isAbsolute = true)
    (options : Options) (defaultRoot other : Path) :
    (options.anchored directory).toolchain defaultRoot other =
      options.toolchain defaultRoot directory := by
  unfold toolchain anchored
  simp only [Path.map_anchor_anchored absolute]

theorem request_anchored (absolute : directory.isAbsolute = true)
    (options : Options) (defaultRoot other : Path) :
    (options.anchored directory).request defaultRoot other =
      (options.request defaultRoot directory).anchored directory := by
  unfold request Request.anchored
  rw [toolchain_anchored absolute]
  rfl

/-- With a straight default root, an invocation in an absolute directory has its root, its shim and
its launcher straight, and whatever was not given by a path lies below the root. And it has the same
configuration, or is refused alike, when it is made in any other directory with its paths made
absolute before. -/
theorem configuration_situates (options : Options) (defaultRoot directory : Path)
    (absolute : directory.isAbsolute = true) (rooted : defaultRoot.IsStraight) :
    (∀ configuration, options.configuration defaultRoot directory = .ok configuration →
      options.Situates defaultRoot directory configuration) ∧
      ∀ other, (options.anchored directory).configuration defaultRoot other =
        options.configuration defaultRoot directory := by
  constructor
  · exact fun _ accepted => situates_of_configuration absolute rooted accepted
  · intro other
    have rootAbsolute := (isStraight_root absolute rooted options).absolute
    unfold configuration
    rw [request_anchored absolute]
    exact Request.check_anchored absolute rootAbsolute other

/-- The root lies beside the working directory, and the launcher is not the one below the root. -/
def outlyingOptions : Options :=
  { bootstrap := some none
    root := some (.ofText "../opt/./schism/")
    launcher := some (.ofText "tools//run.mjs") }

def outlyingConfiguration : Configuration :=
  { bootstrapSource := some (.ofText "/work/opt/schism/lib/compiler.ss")
    toolchain :=
      { root := .ofText "/work/opt/schism"
        host := Toolchain.defaultHost
        shim := .ofText "/work/opt/schism/lib/bootstrap-from-guile.scm"
        node := Toolchain.defaultNode
        launcher := .ofText "/work/src/tools/run.mjs" } }

theorem outlyingOptions_situates :
    (Path.ofText "/work/src").isAbsolute = true ∧ (Path.ofText "/usr").IsStraight ∧
      outlyingOptions.configuration (.ofText "/usr") (.ofText "/work/src") =
        .ok outlyingConfiguration ∧
      outlyingOptions.Situates (.ofText "/usr") (.ofText "/work/src") outlyingConfiguration ∧
      (outlyingOptions.anchored (.ofText "/work/src")).configuration (.ofText "/usr")
        (.ofText "/tmp") = .ok outlyingConfiguration := by
  have absolute : (Path.ofText "/work/src").isAbsolute = true := by decide +kernel
  have rooted : (Path.ofText "/usr").IsStraight := by decide +kernel
  have accepted : outlyingOptions.configuration (.ofText "/usr") (.ofText "/work/src") =
      .ok outlyingConfiguration := by decide +kernel
  obtain ⟨situated, elsewhere⟩ :=
    configuration_situates outlyingOptions (.ofText "/usr") (.ofText "/work/src") absolute rooted
  exact ⟨absolute, rooted, accepted, situated _ accepted, (elsewhere _).trans accepted⟩

end CompilerDriver.Options
