import CompilerDriver.Proofs.Run.Checked
import CompilerDriver.Proofs.Toolchain

/-!
The paths of a checked request. A bootstrap source is seen from the working directory, whether it
was named or is the usual one, and so is an image that was named; so both are normal forms. The
image of a stage is left as the toolchain spells it, and goes as straight as the toolchain's root
does.
-/

namespace CompilerDriver.Request

variable {request : Request} {directory : Path} {configuration : Configuration}

def IsStaged (request : Request) : Prop :=
  request.bootstrap = none ∧ request.image = none ∧ request.stage ≠ none

theorem bootstrapSource?_isNormal (absolute : directory.isAbsolute = true) {source : Path}
    (sourced : request.bootstrapSource? directory = some source) : source.IsNormal := by
  unfold bootstrapSource? at sourced
  obtain ⟨wanted, _, rfl⟩ := Option.map_eq_some_iff.mp sourced
  exact Path.isNormal_anchor absolute _

theorem chosenImage?_cases {image : Path} (chosen : request.chosenImage? directory = some image) :
    (∃ named, request.image = some named ∧ image = directory.anchor named) ∨
      (request.IsStaged ∧
        ∃ stage, request.stage = some stage ∧ image = request.toolchain.stagedImage stage) := by
  unfold chosenImage? at chosen
  cases imaged : request.image with
  | some named =>
      rw [imaged] at chosen
      exact Or.inl ⟨named, rfl, (Option.some.inj chosen).symm⟩
  | none =>
      rw [imaged] at chosen
      cases sourced : request.bootstrap with
      | some source =>
          rw [sourced] at chosen
          cases chosen
      | none =>
          rw [sourced] at chosen
          obtain ⟨stage, staged, rfl⟩ := Option.map_eq_some_iff.mp chosen
          exact Or.inr ⟨⟨sourced, imaged, staged ▸ Option.some_ne_none stage⟩, stage, staged, rfl⟩

variable (directory) in
theorem chosenImage?_of_staged (staged : request.IsStaged) :
    ∃ stage, request.stage = some stage ∧
      request.chosenImage? directory = some (request.toolchain.stagedImage stage) := by
  obtain ⟨sourceless, imageless, wanted⟩ := staged
  obtain ⟨stage, numbered⟩ := Option.ne_none_iff_exists'.mp wanted
  refine ⟨stage, numbered, ?_⟩
  unfold chosenImage? stagedImage?
  rw [imageless, sourceless, numbered]
  rfl

variable (request directory configuration) in
/-- How straight the paths of a configuration go that a request was checked into. -/
structure Directs : Prop where
  source : ∀ source, configuration.bootstrapSource = some source → source.IsNormal
  named : request.image ≠ none → ∀ image, configuration.compilerImage = some image → image.IsNormal
  staged : request.image = none → ∀ image, configuration.compilerImage = some image →
    image.IsBelow request.toolchain.root ∧ (image.IsStraight ↔ request.toolchain.root.IsStraight)
  straight_iff : (∀ path, configuration.bootstrapSource = some path ∨
      configuration.compilerImage = some path → path.IsStraight) ↔
    (request.IsStaged → request.toolchain.root.IsStraight)

/-- Seen from an absolute directory, the bootstrap source of a checked request is a normal form, be
it the usual one below a relative root, and so is an image that was named. The image of a stage lies
below the toolchain's root and is as straight as the root is. So all these paths are absolute and
free of dots and climbs exactly unless a stage is what counts and the root is not. -/
theorem check_directs (request : Request) (directory : Path)
    (absolute : directory.isAbsolute = true) (configuration : Configuration)
    (checked : request.check directory = .ok configuration) :
    request.Directs configuration := by
  obtain ⟨_, _, _, rfl⟩ := settled_of_check checked
  have sources : ∀ source, request.bootstrapSource? directory = some source → source.IsNormal :=
    fun _ => bootstrapSource?_isNormal absolute
  refine ⟨sources, ?_, ?_, ?_, ?_⟩
  · intro someImage image chosen
    rcases chosenImage?_cases chosen with ⟨named, _, rfl⟩ | ⟨staged, _⟩
    · exact Path.isNormal_anchor absolute named
    · exact absurd staged.2.1 someImage
  · intro imageless image chosen
    rcases chosenImage?_cases chosen with ⟨named, imaged, _⟩ | ⟨_, stage, _, rfl⟩
    · rw [imageless] at imaged
      cases imaged
    · exact ⟨request.toolchain.isBelow_stagedImage stage,
        request.toolchain.isStraight_stagedImage_iff stage⟩
  · intro straight staged
    obtain ⟨stage, _, chosen⟩ := chosenImage?_of_staged directory staged
    exact (request.toolchain.isStraight_stagedImage_iff stage).mp (straight _ (Or.inr chosen))
  · rintro rooted path (sourced | chosen)
    · exact (sources path sourced).isStraight
    · rcases chosenImage?_cases chosen with ⟨named, _, rfl⟩ | ⟨staged, stage, _, rfl⟩
      · exact (Path.isNormal_anchor absolute named).isStraight
      · exact (request.toolchain.isStraight_stagedImage_iff stage).mpr (rooted staged)

/-- The usual source is seen from the directory like any other, below a root that is relative and
spelled in a roundabout way. -/
def usualBootstrap : Request :=
  { bootstrap := some none, stage := some 1, toolchain := .standard (.ofText "../schism/./") }

def usualConfiguration : Configuration :=
  { bootstrapSource := some (.ofText "/work/schism/lib/compiler.ss")
    toolchain := .standard (.ofText "../schism/./") }

theorem usualBootstrap_directs :
    (Path.ofText "/work//src").isAbsolute = true ∧
      usualBootstrap.check (.ofText "/work//src") = .ok usualConfiguration ∧
      usualBootstrap.Directs usualConfiguration := by
  have absolute : (Path.ofText "/work//src").isAbsolute = true := by decide +kernel
  have checked : usualBootstrap.check (.ofText "/work//src") = .ok usualConfiguration := by
    decide +kernel
  exact ⟨absolute, checked, check_directs _ _ absolute _ checked⟩

def relativeStage : Request :=
  { stage := some 1, toolchain := .standard (.ofText "schism") }

theorem relativeStage_strays :
    (Path.ofText "/work").isAbsolute = true ∧
      (relativeStage.check (.ofText "/work")).map Configuration.compilerImage =
        .ok (some (.ofText "schism/build/lib/compiler1.wasm")) ∧
      ¬(Path.ofText "schism/build/lib/compiler1.wasm").IsStraight := by
  decide +kernel

/-- The same request, with the paths that were named made absolute. -/
def anchored (request : Request) (directory : Path) : Request :=
  { request with
    bootstrap := request.bootstrap.map fun source => source.map directory.anchor
    image := request.image.map directory.anchor }

theorem check_anchored (absolute : directory.isAbsolute = true)
    (rooted : request.toolchain.root.isAbsolute = true) (other : Path) :
    (request.anchored directory).check other = request.check directory := by
  have source : (request.anchored directory).bootstrapSource? other =
      request.bootstrapSource? directory := by
    unfold bootstrapSource? anchored
    simp only [Option.map_map]
    congr 1
    funext wanted
    cases wanted with
    | none =>
        -- Nothing was named, so the directory changes; but the usual source is absolute by its root.
        have below := request.toolchain.isBelow_compilerSource.1
        exact Path.anchor_elsewhere (below.trans rooted) other directory
    | some path => exact Path.anchor_anchored absolute path other
  have image : (request.anchored directory).namedImage? other = request.namedImage? directory :=
    Path.map_anchor_anchored absolute other request.image
  unfold check
  rw [source, image]
  rfl

end CompilerDriver.Request
