import CompilerDriver.Proofs.Invocation.Verbosity
import CompilerDriver.Proofs.Report.Document

/-!
The same run, reported for a reader or as a document. The form of the report has no bearing on the
run or on the status. From a document all about the run can be learnt that is written or printed
without it, unless a source of the run is not text: then the document is empty, and what was meant
for standard output is lost with it.
-/

namespace CompilerDriver.Invocation

/-- Two lines of words of which the second asks for a document, and the first is otherwise the same.
-/
def Formatted (environment : Options.Environment) (plain formatted : List Bytes) : Prop :=
  ∃ options, Options.parse environment formatted = .ok options ∧ options.json = true ∧
    Options.parse environment plain = .ok { options with json := false }

/-- The words make a run, and the run comes to a summary. -/
def Produces (site : Site) (runners : Option Duration → Runner) (world : World)
    (arguments : List Bytes) (summary : Summary) : Prop :=
  ∃ options configuration, Settled site arguments options configuration ∧
    ¬IsSpoiled (isLogged site options) configuration ∧
    (Run.whole configuration (runners configuration.timeout) world).1 = .ok summary

variable {outlet : Outlet} {site : Site} {runners : Option Duration → Runner} {world : World}
  {arguments plain formatted : List Bytes} {options : Options} {configuration : Configuration}
  {summary : Summary}

theorem formatted_document_iff :
    Formatted site.environment arguments (Options.documentWord :: arguments) ↔
      ∃ options, Options.parse site.environment arguments = .ok options ∧
        options.json = false := by
  constructor
  · rintro ⟨options, _, _, plain⟩
    exact ⟨_, plain, rfl⟩
  · rintro ⟨options, plain, bare⟩
    have asked : Options.parse site.environment (Options.documentWord :: arguments) =
        .ok { options with json := true } := by
      rw [Options.parse_document_iff, plain, ← bare]
      exact ⟨rfl, rfl⟩
    refine ⟨_, asked, rfl, ?_⟩
    rw [plain, ← bare]

theorem trouble_status (json : Bool) (status : Nat) (cause : Report.Trouble) :
    (trouble json status cause).status = status := by
  cases json <;> rfl

/-- Endings of which only what is printed may differ. -/
def SameCourse (left right : Ending × World) : Prop :=
  left.1.status = right.1.status ∧ left.2 = right.2

theorem trouble_sameCourse (left right : Bool) (status : Nat) (cause : Report.Trouble) :
    SameCourse (trouble left status cause, world) (trouble right status cause, world) := by
  refine ⟨?_, rfl⟩
  rw [trouble_status, trouble_status]

theorem reported_sameCourse (left right : Bool) (result : Except ConfigError Summary × World) :
    SameCourse (reported left result) (reported right result) := by
  obtain ⟨answer, next⟩ := result
  cases answer with
  | error error => exact trouble_sameCourse left right 2 _
  | ok summary => cases left <;> cases right <;> exact ⟨rfl, rfl⟩

theorem Formatted.settled (pair : Formatted site.environment plain formatted)
    (settled : Settled site plain options configuration) :
    options.json = false ∧
      Settled site formatted { options with json := true } configuration := by
  obtain ⟨other, parsed, json, bare⟩ := pair
  cases bare.symm.trans settled.parsed
  refine ⟨rfl, ?_, settled.configured⟩
  rw [parsed, ← json]

theorem Formatted.sameCourse (pair : Formatted site.environment plain formatted) :
    SameCourse (perform site runners formatted world) (perform site runners plain world) := by
  unfold perform
  obtain ⟨options, parsed, json, bare⟩ := id pair
  cases result : options.configurationIn site.defaultRoot site.directory with
  | error error =>
      rw [performOn_of_unsettled parsed result, performOn_of_unsettled bare result]
      exact trouble_sameCourse _ _ 2 _
  | ok configuration =>
      have first : Settled site formatted options configuration := ⟨parsed, result⟩
      have second : Settled site plain { options with json := false } configuration :=
        ⟨bare, result⟩
      rw [first.performOn_eq, second.performOn_eq]
      have logged : isLogged site { options with json := false } = isLogged site options := rfl
      rw [logged]
      by_cases spoiled : IsSpoiled (isLogged site options) configuration
      · rw [withConfiguration_of_spoiled spoiled, withConfiguration_of_spoiled spoiled]
        exact trouble_sameCourse _ _ 1 _
      · rw [withConfiguration_of_sound spoiled, withConfiguration_of_sound spoiled]
        exact reported_sameCourse _ _ _

theorem performOn_of_produces (produces : Produces site runners world arguments summary) :
    ∃ options, Options.parse site.environment arguments = .ok options ∧
      (performOn outlet site runners arguments world).1 =
        presentOn outlet options.json summary := by
  obtain ⟨options, configuration, settled, sound, ran⟩ := produces
  refine ⟨options, settled.parsed, ?_⟩
  rw [settled.performOn_eq, withConfiguration_of_sound sound]
  cases result : Run.whole configuration (runners configuration.timeout) world with
  | mk answer next =>
      rw [result] at ran
      cases ran
      rfl

theorem Formatted.produces (pair : Formatted site.environment plain formatted)
    (produces : Produces site runners world plain summary) :
    Produces site runners world formatted summary := by
  obtain ⟨options, configuration, settled, sound, ran⟩ := produces
  exact ⟨_, configuration, (pair.settled settled).2, sound, ran⟩

theorem document?_of_produces (produces : Produces site runners world arguments summary) :
    Report.document? summary = none ↔ ¬Report.IsTextual summary := by
  obtain ⟨options, configuration, settled, sound, ran⟩ := produces
  exact Report.document?_of_ran ran

/-- A document is asked for without any bearing on the run. It says all about the run, and carries
all that goes to standard output without it, exactly when the sources of the run are text. -/
theorem delivers_iff (site : Site) (runners : Option Duration → Runner) (world : World) :
    (∀ arguments,
      Formatted site.environment arguments (Options.documentWord :: arguments) ↔
        ∃ options, Options.parse site.environment arguments = .ok options ∧
          options.json = false) ∧
    (∀ plain formatted, Formatted site.environment plain formatted →
      SameCourse (perform site runners formatted world) (perform site runners plain world) ∧
      ∀ summary, Produces site runners world plain summary →
        (perform site runners plain world).1 =
          .finished summary.exitCode summary.output
            (Bytes.ofText (Report.human false summary)) ∧
        ∃ stdout, (perform site runners formatted world).1 = .finished summary.exitCode stdout [] ∧
          ((∃ document, Report.readOutput? stdout = some document ∧
              Report.Delivers document summary) ↔
            Report.IsTextual summary) ∧
          (¬Report.IsTextual summary → stdout = Bytes.ofText "\x7b\x7d\n")) := by
  refine ⟨fun _ => formatted_document_iff, ?_⟩
  intro plain formatted pair
  refine ⟨pair.sameCourse, ?_⟩
  intro summary produces
  obtain ⟨options, parsed, json, bare⟩ := id pair
  constructor
  · obtain ⟨same, again, ending⟩ := performOn_of_produces produces
    cases bare.symm.trans again
    exact ending
  · obtain ⟨same, again, ending⟩ := performOn_of_produces (pair.produces produces)
    cases parsed.symm.trans again
    rw [json] at ending
    have unformed := document?_of_produces produces
    refine ⟨_, ending, ?_, ?_⟩
    · rw [Report.delivered_iff, Ne, unformed, not_not]
    · intro untextual
      unfold Report.document
      rw [unformed.mpr untextual]
      rfl

def printedSummary (file : Bytes) : Summary :=
  { mode := .compile false
    steps :=
      [{ operation := .compile ⟨file⟩
         source := some ⟨file⟩
         target := some .standardOutput
         completion := some { stdout := Bytes.ofText "M" } }] }

theorem plainName_produces :
    Produces rootSite printer bareWorld (printing plainName) (printedSummary plainName) :=
  ⟨printingOptions plainName, printingOf plainName, plainName_settled,
    fun spoiled => absurd spoiled.1 (by decide +kernel), by decide +kernel⟩

/-- The module of a file whose name is text is in the document. -/
theorem plainName_delivered :
    ∃ stdout,
      (perform rootSite printer (Options.documentWord :: printing plainName) bareWorld).1 =
        .finished 0 stdout [] ∧
      ∃ document, Report.readOutput? stdout = some document ∧
        Report.Delivers document (printedSummary plainName) := by
  obtain ⟨formatted, same⟩ := delivers_iff rootSite printer bareWorld
  have pair := (formatted (printing plainName)).mpr ⟨_, plainName_settled.parsed, rfl⟩
  obtain ⟨_, stdout, ending, delivers, _⟩ := (same _ _ pair).2 _ plainName_produces
  exact ⟨stdout, ending, delivers.mpr (by unfold Report.IsTextual; decide +kernel)⟩

theorem strayName_produces :
    Produces rootSite printer bareWorld (printing strayName) (printedSummary strayName) :=
  ⟨printingOptions strayName, printingOf strayName, ⟨by decide +kernel, by decide +kernel⟩,
    fun spoiled => absurd spoiled.1 (by decide +kernel), by decide +kernel⟩

/-- The module of a file whose name is not text is printed without the document form, and lost with
it. -/
theorem strayName_lost :
    Formatted rootSite.environment (printing strayName)
        (Options.documentWord :: printing strayName) ∧
      Produces rootSite printer bareWorld (printing strayName) (printedSummary strayName) ∧
      (perform rootSite printer (printing strayName) bareWorld).1.status = 0 ∧
      (printedSummary strayName).output = Bytes.ofText "M" ∧
      (perform rootSite printer (Options.documentWord :: printing strayName) bareWorld).1 =
        .finished 0 (Bytes.ofText "\x7b\x7d\n") [] ∧
      ¬∃ document, Report.readOutput? (Bytes.ofText "\x7b\x7d\n") = some document ∧
        Report.Delivers document (printedSummary strayName) := by
  refine ⟨formatted_document_iff.mpr ⟨_, rfl, rfl⟩, strayName_produces, by decide +kernel,
    by decide +kernel, by decide +kernel, ?_⟩
  rintro ⟨document, read, delivers⟩
  have empty : Report.readOutput? (Bytes.ofText "\x7b\x7d\n") = some (.object []) := rfl
  cases empty.symm.trans read
  exact absurd delivers.mode nofun

end CompilerDriver.Invocation
