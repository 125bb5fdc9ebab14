import CompilerDriver.Proofs.Run.Single
import CompilerDriver.Proofs.Template

/-!
What the bootstrap shim is told about its output. It gets one argument, which is a dash for standard
output and the path of the file otherwise. So it can tell the two apart unless the file itself is
named by a single dash; then it prints the image, and a run that takes the target for a file forgets
what was printed.
-/

namespace CompilerDriver

namespace Template

/-- The template and the stem make a name that is a single dash. -/
def Dashes (template name : String) : Prop :=
  (template = "\x7b\x7d" ∧ name = "-") ∨
    (name = "" ∧ (template = "\x7b\x7d-" ∨ template = "-\x7b\x7d"))

theorem encode_dash : Text.Utf8.encodeChars ['-'] = Target.dash.bytes := by
  decide +kernel

theorem dash_of_parts {before name after : List Char} :
    before ++ name ++ after = ['-'] ↔
      (before = [] ∧ name = ['-'] ∧ after = []) ∨
        (name = [] ∧ (before = [] ∧ after = ['-'] ∨ before = ['-'] ∧ after = [])) := by
  constructor
  · intro whole
    rw [List.append_assoc] at whole
    rcases List.append_eq_singleton_iff.mp whole with ⟨front, rest⟩ | ⟨front, rest⟩
    · rcases List.append_eq_singleton_iff.mp rest with ⟨nameless, back⟩ | ⟨named, back⟩
      · exact Or.inr ⟨nameless, Or.inl ⟨front, back⟩⟩
      · exact Or.inl ⟨front, named, back⟩
    · obtain ⟨nameless, back⟩ := List.append_eq_nil_iff.mp rest
      exact Or.inr ⟨nameless, Or.inr ⟨front, back⟩⟩
  · rintro (⟨rfl, rfl, rfl⟩ | ⟨rfl, ⟨rfl, rfl⟩ | ⟨rfl, rfl⟩⟩) <;> rfl

theorem cut?_text {template : String} {before after : List Char}
    (parts : cut? template.toList = some (before, after)) (front back : List Char)
    (level : cut? (front ++ placeholder ++ back) = some (front, back)) :
    template = String.ofList (front ++ placeholder ++ back) ↔ before = front ∧ after = back := by
  have text := split_of_cut? parts
  constructor
  · intro same
    rw [same, String.toList_ofList, level] at parts
    cases parts
    exact ⟨rfl, rfl⟩
  · rintro ⟨rfl, rfl⟩
    rw [← text, String.ofList_toList]

theorem resolve_dash {template name : String} {path : Path}
    (resolved : resolve template name = .ok (.file path)) :
    (Target.file path).argument = Target.dash ↔ Dashes template name := by
  obtain ⟨_, before, after, parts, rfl⟩ := resolve_file_iff_cut?.mp resolved
  have alone := cut?_text parts [] [] rfl
  have behind := cut?_text parts [] ['-'] rfl
  have ahead := cut?_text parts ['-'] [] rfl
  have spelled : (⟨Text.Utf8.encodeChars (before ++ name.toList ++ after)⟩ : Path) =
      Target.dash ↔ before ++ name.toList ++ after = ['-'] := by
    constructor
    · intro same
      refine Text.Utf8.encodeChars_injective ?_
      rw [encode_dash]
      exact congrArg Path.bytes same
    · intro same
      rw [same, encode_dash]
  have letters : "-".toList = ['-'] := rfl
  have named : name.toList = ['-'] ↔ name = "-" := by rw [← letters, String.toList_inj]
  have nameless : name.toList = [] ↔ name = "" := String.toList_eq_nil_iff
  refine spelled.trans (dash_of_parts.trans ?_)
  rw [named, nameless]
  constructor
  · rintro (⟨front, dashed, back⟩ | ⟨empty, here | there⟩)
    · exact Or.inl ⟨alone.mpr ⟨front, back⟩, dashed⟩
    · exact Or.inr ⟨empty, Or.inl (behind.mpr here)⟩
    · exact Or.inr ⟨empty, Or.inr (ahead.mpr there)⟩
  · rintro (⟨text, dashed⟩ | ⟨empty, text | text⟩)
    · obtain ⟨front, back⟩ := alone.mp text
      exact Or.inl ⟨front, dashed, back⟩
    · exact Or.inr ⟨empty, Or.inl (behind.mp text)⟩
    · exact Or.inr ⟨empty, Or.inr (ahead.mp text)⟩

theorem outputFor_dash {template : String} {source : Path} {target : Target}
    (named : outputFor template source = .ok target) :
    target.argument = Target.dash ↔
      target = .standardOutput ∨ (template = "\x7b\x7d" ∧ stem source = .ok "-") := by
  obtain ⟨name, found, resolved⟩ := outputFor_ok_iff.mp named
  cases target with
  | standardOutput => exact iff_of_true rfl (Or.inl rfl)
  | file path =>
      rw [resolve_dash resolved]
      constructor
      · rintro (⟨lone, dashed⟩ | ⟨nothing, _⟩)
        · exact Or.inr ⟨lone, by rw [found, dashed]⟩
        · exact absurd nothing (stem_ne_empty found)
      · rintro (impossible | ⟨lone, dashed⟩)
        · cases impossible
        · exact Or.inl ⟨lone, Except.ok.inj (found.symm.trans dashed)⟩

theorem outputFor_clash {template : String} {source : Path}
    (clash : template = "\x7b\x7d" ∧ stem source = .ok "-") :
    outputFor template source = .ok (.file Target.dash) := by
  unfold outputFor
  rw [clash.1, clash.2]
  decide +kernel

end Template

namespace Run

open Template

/-- A shim that prints its image when its output argument is a dash, and at no other time. -/
def PrintsOnDash (runner : Runner) (image : Bytes) : Prop :=
  ∀ call tree completion, (runner call tree).answer = .ok completion →
    (completion.stdout = image ↔ call.command.arguments[1]? = some Target.dash.bytes)

variable {configuration : Configuration} {source : Path} {target : Target} {runner : Runner}

theorem bootstrap_succeeded (sourced : configuration.bootstrapSource = some source)
    (named : outputFor configuration.template source = .ok target) {world last : World}
    {report : StepReport} {completion : Completion}
    (ran : bootstrap configuration runner world = (.ok report, last))
    (completed : report.completion = some completion) (ended : completion.status = 0)
    (silent : completion.stderr = []) :
    (runner (bootstrapCall configuration target source world) world.tree).answer = .ok completion ∧
      report.target = some target ∧ report.outcome = .success := by
  obtain ⟨other, made, _⟩ := bootstrap_ran sourced named runner world
  rw [made] at ran
  cases ran
  cases answer : (runner (bootstrapCall configuration target source world) world.tree).answer with
  | error error =>
      rw [answer] at completed
      cases completed
  | ok own =>
      rw [answer] at completed
      cases completed
      refine ⟨rfl, rfl, ?_⟩
      change Operation.bootstrap.classify configuration.warnings completion = .success
      simp [Operation.classify, Completion.succeeded, Completion.warned, ended, silent]

theorem bootstrapCall_output (configuration : Configuration) (target : Target) (source : Path)
    (world : World) :
    (bootstrapCall configuration target source world).command.arguments[1]? =
      some target.argument.bytes := rfl

theorem payload?_of_success {report : StepReport} {completion : Completion}
    (aimed : report.target = some target) (completed : report.completion = some completion)
    (succeeded : report.outcome = .success) :
    report.payload? = some completion.stdout ↔ target = .standardOutput := by
  unfold StepReport.payload?
  rw [aimed, completed, succeeded]
  cases target with
  | standardOutput => exact iff_of_true rfl rfl
  | file path => exact iff_of_false nofun nofun

/-- A file goes by a dash only when template and stem make its whole name a dash. So the shim is
told a dash for standard output and for nothing else, and an image that it prints is the payload of
the step, unless the template is a lone placeholder and the stem of the source is a dash. -/
theorem dash_tells (configuration : Configuration) (source : Path) (target : Target)
    (sourced : configuration.bootstrapSource = some source)
    (named : outputFor configuration.template source = .ok target) :
    (∀ template name path, resolve template name = .ok (.file path) →
        ((Target.file path).argument = Target.dash ↔ Dashes template name)) ∧
      ((target.argument = Target.dash ↔ target = .standardOutput) ↔
        ¬(configuration.template = "\x7b\x7d" ∧ stem source = .ok "-")) ∧
      ∀ runner image world report last completion, PrintsOnDash runner image →
        bootstrap configuration runner world = (.ok report, last) →
        report.completion = some completion → completion.status = 0 → completion.stderr = [] →
          report.outcome = .success ∧
            ((completion.stdout = image → report.payload? = some image) ↔
              ¬(configuration.template = "\x7b\x7d" ∧ stem source = .ok "-")) := by
  have dashed := outputFor_dash named
  have fileOfClash : configuration.template = "\x7b\x7d" ∧ stem source = .ok "-" →
      target ≠ .standardOutput := by
    intro clash printed
    rw [outputFor_clash clash, printed] at named
    cases named
  refine ⟨fun template name path resolved => resolve_dash resolved, ?_, ?_⟩
  · constructor
    · intro told clash
      exact fileOfClash clash (told.mp (dashed.mpr (Or.inr clash)))
    · intro apart
      exact dashed.trans (or_iff_left apart)
  · intro runner image world report last completion prints ran completed ended silent
    obtain ⟨answer, aimed, succeeded⟩ :=
      bootstrap_succeeded sourced named ran completed ended silent
    have payload := payload?_of_success aimed completed succeeded
    have printed : completion.stdout = image ↔ target.argument = Target.dash := by
      rw [prints _ _ _ answer, bootstrapCall_output, Option.some.injEq]
      constructor
      · exact congrArg Path.mk
      · exact congrArg Path.bytes
    refine ⟨succeeded, ?_⟩
    constructor
    · intro delivered clash
      have imagePrinted := printed.mpr (dashed.mpr (Or.inr clash))
      rw [imagePrinted] at payload
      exact fileOfClash clash (payload.mp (delivered imagePrinted))
    · intro apart imagePrinted
      have standard := (dashed.mp (printed.mp imagePrinted)).resolve_right apart
      rw [← imagePrinted]
      exact payload.mpr standard

/-- A host that knows the dash, and prints a module of one letter for it. -/
def dashPrinter : Runner := fun call tree =>
  { duration := 0
    answer := .ok
      { stdout :=
          if call.command.arguments[1]? = some Target.dash.bytes then Bytes.ofText "M" else [] }
    tree := tree }

theorem dashPrinter_prints : PrintsOnDash dashPrinter (Bytes.ofText "M") := by
  intro call tree completion answered
  cases answered
  split
  case isTrue dash => exact iff_of_true rfl dash
  case isFalse other => exact iff_of_false (by decide +kernel) other

def bootstrapping (source template : String) : Configuration :=
  { bootstrapSource := some (.ofText source)
    template := template
    toolchain := .standard (.ofText "/opt/schism") }

/-- With the dash for its template, a run has the image that the shim prints. -/
theorem standardOutput_told :
    ∃ report last,
      bootstrap (bootstrapping "/src/compiler.ss" "-") dashPrinter { tree := {} } = (.ok report, last) ∧
        report.outcome = .success ∧ report.payload? = some (Bytes.ofText "M") := by
  have named : outputFor "-" (.ofText "/src/compiler.ss") = .ok .standardOutput := by
    decide +kernel
  have sourced : (bootstrapping "/src/compiler.ss" "-").bootstrapSource =
      some (.ofText "/src/compiler.ss") := rfl
  obtain ⟨last, ran, _⟩ := bootstrap_ran sourced named dashPrinter { tree := {} }
  have told := dash_tells (bootstrapping "/src/compiler.ss" "-") (.ofText "/src/compiler.ss")
    .standardOutput sourced named
  obtain ⟨succeeded, delivered⟩ := told.2.2 dashPrinter (Bytes.ofText "M") { tree := {} } _ last
    { stdout := Bytes.ofText "M" } dashPrinter_prints ran (by decide +kernel) rfl rfl
  exact ⟨_, last, ran, succeeded, delivered.mpr (by decide +kernel) rfl⟩

/-- A source that is called dash, and a template that adds nothing to its stem: the shim is told a
dash and prints the image, but the target is a file, so the image is no payload and no file is made.
-/
theorem dashSource_drops :
    ∃ report last,
      bootstrap (bootstrapping "/src/-.ss" "\x7b\x7d") dashPrinter { tree := {} } = (.ok report, last) ∧
        PrintsOnDash dashPrinter (Bytes.ofText "M") ∧
        report.target = some (.file Target.dash) ∧
        (Target.file Target.dash).argument = Target.standardOutput.argument ∧
        report.completion = some { stdout := Bytes.ofText "M" } ∧
        report.outcome = .success ∧ report.payload? = none ∧ last.tree = {} := by
  refine ⟨_, _, rfl, dashPrinter_prints, ?_⟩
  decide +kernel

end Run

end CompilerDriver
