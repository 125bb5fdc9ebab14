import CompilerDriver.Proofs.Invocation.Format
import CompilerDriver.Proofs.Report.Human
import CompilerDriver.Proofs.Run.Output
import CompilerDriver.Proofs.Run.Refusal

/-!
The exit status, and what else tells how a run went. A run that has a summary ends with one or zero,
by whether a step failed, and the count, the report for a reader and the status all say the same.
Status two is for words and settings that are refused, and then nothing is launched and no file is
touched. All this is for a standard output that takes everything; what a shorter one changes is
stated last.
-/

namespace CompilerDriver

namespace Report

def EndsLine (text : String) : Prop :=
  text = "" ∨ ∃ front, text = front ++ "\n"

theorem EndsLine.append {left right : String} (first : EndsLine left) (second : EndsLine right) :
    EndsLine (left ++ right) := by
  rcases second with rfl | ⟨front, rfl⟩
  · rw [String.append_empty]
    exact first
  · right
    exact ⟨left ++ front, (String.append_assoc ..).symm⟩

theorem endsLine_join {lines : List String} (whole : ∀ line ∈ lines, EndsLine line) :
    EndsLine (String.join lines) := by
  induction lines with
  | nil => exact Or.inl rfl
  | cons line rest ih =>
      rw [List.forall_mem_cons] at whole
      rw [String.join_cons]
      exact whole.1.append (ih whole.2)

theorem endsLine_closeLine (text : String) : EndsLine (closeLine text) := by
  unfold closeLine
  split
  case isTrue closed =>
    rcases Bool.or_eq_true_iff.mp closed with empty | ended
    · exact Or.inl (String.isEmpty_iff.mp empty)
    · right
      obtain ⟨front, split⟩ := List.getLast?_eq_some_iff.mp (eq_of_beq ended)
      refine ⟨String.ofList front, ?_⟩
      rw [← String.toList_inj, split]
      simp
  case isFalse => exact Or.inr ⟨text, rfl⟩

theorem endsLine_headline (coloured : Bool) (step : StepReport) :
    EndsLine (headline coloured step) := by
  unfold headline
  cases step.outcome with
  | success => exact Or.inr ⟨_, rfl⟩
  | warnings =>
      refine Or.inr ⟨paint coloured .yellow "!" ++ " " ++ label step ++ destination step ++
        " (with warnings)", ?_⟩
      simp only [String.append_assoc]
      rfl
  | failed error => exact Or.inr ⟨_, rfl⟩

theorem endsLine_passage (coloured : Bool) (steps : List StepReport) :
    EndsLine (passage coloured steps) := by
  refine endsLine_join ?_
  intro text member
  obtain ⟨step, _, rfl⟩ := List.mem_map.mp member
  exact (endsLine_headline coloured step).append (endsLine_closeLine _)

end Report

namespace Run

variable {configuration : Configuration} {runner : Runner} {world : World} {summary : Summary}

theorem session_of_whole (ran : (whole configuration runner world).1 = .ok summary)
    (interactive : summary.mode = .interactive) :
    ∃ answer, summary.steps = [sessionReport answer] := by
  obtain ⟨_, made⟩ := mode_of_whole ran
  rw [interactive] at made
  cases imaged : configuration.compilerImage with
  | none =>
      simp only [steps, only, interact_missing imaged] at made
      cases made
  | some image =>
      obtain ⟨last, talked, _⟩ := interact_ran imaged runner (modeWorld .interactive world)
      simp only [steps, only, talked] at made
      exact ⟨_, (Except.ok.inj made).symm⟩

end Run

namespace Invocation

open Report

/-- The status of a run, its count of failures and its report for a reader tell of the same steps.
-/
structure Agrees (summary : Summary) : Prop where
  failing : (∃ step ∈ summary.steps, step.outcome.isFailure = true) → summary.exitCode = 1
  faultless : (∀ step ∈ summary.steps, step.outcome.isFailure = false) → summary.exitCode = 0
  failures : summary.failures =
    (summary.steps.filter fun step => step.outcome.status = "failed").length
  counted : 0 < summary.failures → 1 < summary.steps.length →
    ∃ body, EndsLine body ∧
      human false summary =
        body ++ (toString summary.failures ++ " of " ++ toString summary.steps.length ++
          " steps failed" ++ "\n")
  shown : ∀ before step after error, summary.steps = before ++ step :: after →
    step.outcome = .failed error →
    EndsLine (passage false before) ∧
      ∃ rest, human false summary = passage false before ++ ("✗ " ++ error.message ++ "\n" ++ rest)
  session : summary.mode = .interactive → summary.exitCode = 0 → human false summary = ""

theorem failures_eq (summary : Summary) :
    summary.failures =
      (summary.steps.filter fun step => step.outcome.status = "failed").length := by
  unfold Summary.failures
  rw [List.countP_eq_length_filter]
  congr 2
  funext step
  cases step.outcome <;> rfl

theorem human_counted {summary : Summary} (someFailed : 0 < summary.failures)
    (several : 1 < summary.steps.length) :
    human false summary =
      passage false summary.steps ++
        (toString summary.failures ++ " of " ++ toString summary.steps.length ++
          " steps failed" ++ "\n") := by
  change passage false summary.steps ++ footer false summary = _
  unfold footer
  rw [if_pos ⟨someFailed, several⟩]
  rfl

theorem human_shown {summary : Summary} {before after : List StepReport} {step : StepReport}
    {error : StepError} (placed : summary.steps = before ++ step :: after)
    (failed : step.outcome = .failed error) :
    ∃ rest, human false summary =
      passage false before ++ ("✗ " ++ error.message ++ "\n" ++ rest) := by
  have shown : isShown step = true := by
    unfold isShown
    rw [failed]
    exact Bool.or_true _
  have first : headline false step = "✗ " ++ error.message ++ "\n" := by
    unfold headline
    rw [failed]
    rfl
  rw [human_around placed shown]
  unfold line
  rw [first]
  exact ⟨_, by rw [String.append_assoc]⟩

theorem human_session {summary : Summary} {answer : Except RunError Completion}
    (session : summary.steps = [Run.sessionReport answer])
    (well : (Run.sessionReport answer).outcome.isFailure = false) : human false summary = "" := by
  have hidden : isShown (Run.sessionReport answer) = false := by
    unfold isShown
    rw [(Run.sessionReport_shape answer).1, well]
    rfl
  unfold human footer
  rw [session, List.filter_cons_of_neg (by rw [hidden]; exact Bool.false_ne_true)]
  rw [if_neg (by simp)]
  rfl

theorem agrees_of_whole {configuration : Configuration} {runner : Runner} {world : World}
    {summary : Summary} (ran : (Run.whole configuration runner world).1 = .ok summary) :
    Agrees summary := by
  have status := Summary.exitCode_of_concluded (Run.whole_concluded ran)
  have faultless : (∀ step ∈ summary.steps, step.outcome.isFailure = false) →
      summary.exitCode = 0 := by
    intro well
    rw [status, if_pos (summary.failures_eq_zero_iff.mpr well)]
  refine ⟨?_, faultless, failures_eq summary, ?_, ?_, ?_⟩
  · rintro ⟨step, member, failed⟩
    rw [status, if_neg]
    intro none
    have well := summary.failures_eq_zero_iff.mp none step member
    rw [well] at failed
    cases failed
  · intro someFailed several
    exact ⟨_, endsLine_passage false summary.steps, human_counted someFailed several⟩
  · intro before step after error placed failed
    exact ⟨endsLine_passage false before, human_shown placed failed⟩
  · intro interactive zero
    obtain ⟨answer, session⟩ := Run.session_of_whole ran interactive
    refine human_session session ?_
    have none : summary.failures = 0 := by
      by_contra someFailed
      rw [status, if_neg someFailed] at zero
      cases zero
    refine summary.failures_eq_zero_iff.mp none _ ?_
    rw [session]
    exact List.mem_singleton_self _

/-! ### Refusals -/

/-- Words that are no command line and ask for no help, or settings that no run can be made with. -/
def IsRefused (site : Site) (runners : Option Duration → Runner) (arguments : List Bytes)
    (world : World) : Prop :=
  (∃ error, Options.parse site.environment arguments = .error error ∧
      error ≠ .helpWanted ∧ error ≠ .versionWanted) ∨
    (∃ options error, Options.parse site.environment arguments = .ok options ∧
      options.configurationIn site.defaultRoot site.directory = .error error) ∨
    ∃ options configuration error, Settled site arguments options configuration ∧
      (Run.whole configuration (runners configuration.timeout) world).1 = .error error

theorem usage_status (error : UsageError) :
    error.exitCode = 2 ↔ error ≠ .helpWanted ∧ error ≠ .versionWanted := by
  cases error <;> decide

theorem present_status (json : Bool) (summary : Summary) :
    (present json summary).status = summary.exitCode := by
  cases json <;> rfl

variable {outlet : Outlet} {site : Site} {runners : Option Duration → Runner}
  {arguments : List Bytes} {world : World} {options : Options} {configuration : Configuration}

theorem Settled.performOn_quiet (settled : Settled site arguments options configuration)
    (unset : site.environment.lookup filterVariable = none) (plain : options.verbosity = 0) :
    performOn outlet site runners arguments world =
      reportedOn outlet options.json
        (Run.whole configuration (runners configuration.timeout) world) := by
  rw [settled.performOn_eq]
  refine withConfiguration_of_sound ?_
  rintro ⟨logged, _⟩
  rw [isLogged_eq unset, plain] at logged
  cases logged

/-- The ending of an invocation, and what it has done by then, by whether it was refused. -/
structure Distinguished (site : Site) (runners : Option Duration → Runner) (arguments : List Bytes)
    (world : World) : Prop where
  reported : ∀ options configuration summary, Settled site arguments options configuration →
    (Run.whole configuration (runners configuration.timeout) world).1 = .ok summary →
    (perform site runners arguments world).1.status = summary.exitCode
  refused : (perform site runners arguments world).1.status = 2 ↔
    IsRefused site runners arguments world
  untouched : IsRefused site runners arguments world →
    world.Untouched (perform site runners arguments world).2

theorem distinguished_of_misuse {error : UsageError}
    (misused : Options.parse site.environment arguments = .error error) :
    Distinguished site runners arguments world := by
  have ended : perform site runners arguments world = (.usage error, world) :=
    performOn_of_misuse misused
  have unsettled : ∀ options, Options.parse site.environment arguments ≠ .ok options := by
    intro options parsed
    rw [misused] at parsed
    cases parsed
  refine ⟨fun options _ _ settled _ => absurd settled.parsed (unsettled options), ?_, ?_⟩
  · rw [ended]
    refine (usage_status error).trans ⟨fun wrong => Or.inl ⟨error, misused, wrong⟩, ?_⟩
    rintro (⟨other, found, wrong⟩ | ⟨options, _, parsed, _⟩ | ⟨options, _, _, settled, _⟩)
    · rw [misused] at found
      cases found
      exact wrong
    · exact absurd parsed (unsettled options)
    · exact absurd settled.parsed (unsettled options)
  · intro _
    rw [ended]
    exact World.Untouched.refl world

theorem distinguished_of_unsettled {error : ConfigError}
    (parsed : Options.parse site.environment arguments = .ok options)
    (wrong : options.configurationIn site.defaultRoot site.directory = .error error) :
    Distinguished site runners arguments world := by
  have ended : perform site runners arguments world = (configFailure options.json error, world) :=
    performOn_of_unsettled parsed wrong
  refine ⟨?_, ?_, ?_⟩
  · intro other configuration summary settled _
    cases parsed.symm.trans settled.parsed
    cases wrong.symm.trans settled.configured
  · rw [ended]
    exact iff_of_true (trouble_status _ 2 _) (Or.inr (Or.inl ⟨options, error, parsed, wrong⟩))
  · intro _
    rw [ended]
    exact World.Untouched.refl world

theorem Settled.distinguished (settled : Settled site arguments options configuration)
    (unset : site.environment.lookup filterVariable = none) (plain : options.verbosity = 0) :
    Distinguished site runners arguments world := by
  have ended : perform site runners arguments world = _ := settled.performOn_quiet unset plain
  have only : ∀ other otherConfiguration, Settled site arguments other otherConfiguration →
      other = options ∧ otherConfiguration = configuration := by
    intro other otherConfiguration again
    cases settled.parsed.symm.trans again.parsed
    cases settled.configured.symm.trans again.configured
    exact ⟨rfl, rfl⟩
  have refuses := Run.whole_refuses configuration (runners configuration.timeout) world
  cases ran : Run.whole configuration (runners configuration.timeout) world with
  | mk result next =>
      rw [ran] at ended refuses
      cases result with
      | error error =>
          have refused : IsRefused site runners arguments world :=
            Or.inr (Or.inr ⟨options, configuration, error, settled, by rw [ran]⟩)
          refine ⟨?_, ?_, ?_⟩
          · intro other otherConfiguration summary again made
            obtain ⟨rfl, rfl⟩ := only other otherConfiguration again
            rw [ran] at made
            cases made
          · rw [ended]
            exact iff_of_true (trouble_status _ 2 _) refused
          · intro _
            rw [ended]
            exact refuses.untouched error rfl
      | ok summary =>
          have sound : (Run.whole configuration (runners configuration.timeout) world).1 =
              .ok summary := by rw [ran]
          have status : (perform site runners arguments world).1.status = summary.exitCode := by
            rw [ended]
            exact present_status options.json summary
          have unrefused : ¬IsRefused site runners arguments world := by
            rintro (⟨error, misused, _⟩ | ⟨other, error, parsed, wrong⟩ |
              ⟨other, otherConfiguration, error, again, wrong⟩)
            · cases misused.symm.trans settled.parsed
            · cases parsed.symm.trans settled.parsed
              cases wrong.symm.trans settled.configured
            · obtain ⟨rfl, rfl⟩ := only other otherConfiguration again
              cases wrong.symm.trans sound
          refine ⟨?_, ?_, fun refused => absurd refused unrefused⟩
          · intro other otherConfiguration found again made
            obtain ⟨rfl, rfl⟩ := only other otherConfiguration again
            cases sound.symm.trans made
            exact status
          · refine iff_of_false ?_ unrefused
            rw [status, Summary.exitCode_of_concluded (Run.whole_concluded sound)]
            split <;> decide

/-- How a run went is told in the same way by its status, its count and its report; and status two
tells that nothing was run, of an invocation that neither asks for more log records nor has a filter
for them in its environment. -/
theorem status_agrees :
    (∀ configuration runner world summary,
      (Run.whole configuration runner world).1 = .ok summary → Agrees summary) ∧
    ∀ site runners arguments world,
      site.environment.lookup filterVariable = none →
      (∀ options, Options.parse site.environment arguments = .ok options → options.verbosity = 0) →
      Distinguished site runners arguments world := by
  refine ⟨fun _ _ _ _ => agrees_of_whole, ?_⟩
  intro site runners arguments world unset plain
  cases parsed : Options.parse site.environment arguments with
  | error error => exact distinguished_of_misuse parsed
  | ok options =>
      cases configured : options.configurationIn site.defaultRoot site.directory with
      | error error => exact distinguished_of_unsettled parsed configured
      | ok configuration =>
          have settled : Settled site arguments options configuration := ⟨parsed, configured⟩
          exact settled.distinguished unset (plain options parsed)

theorem twoFiles_agrees :
    (∃ summary, (Run.whole Run.twoFiles Run.staggered { tree := {} }).1 = .ok summary ∧
      summary.failures = 3 ∧ Agrees summary) ∧
    rootSite.environment.lookup filterVariable = none ∧
    (∀ options, Options.parse rootSite.environment [] = .ok options → options.verbosity = 0) ∧
    (perform rootSite printer [] bareWorld).1.status = 2 ∧
    bareWorld.Untouched (perform rootSite printer [] bareWorld).2 := by
  obtain ⟨agrees, distinguished⟩ := status_agrees
  have unset : rootSite.environment.lookup filterVariable = none := rfl
  have parsed : Options.parse rootSite.environment [] = .ok {} := by decide +kernel
  have plain : ∀ options, Options.parse rootSite.environment [] = .ok options →
      options.verbosity = 0 := by
    intro options found
    cases parsed.symm.trans found
    rfl
  have wordless := distinguished rootSite printer [] bareWorld unset plain
  have status : (perform rootSite printer [] bareWorld).1.status = 2 := by decide +kernel
  refine ⟨⟨_, rfl, by decide +kernel, agrees Run.twoFiles Run.staggered { tree := {} } _ rfl⟩,
    unset, plain, status, ?_⟩
  exact wordless.untouched (wordless.refused.mp status)

/-! ### A standard output with little room -/

/-- How standard output takes the products of a run has no bearing on the run, and no bearing on
anything when there is no summary to report. -/
theorem performOn_alike (outlet : Outlet) (site : Site) (runners : Option Duration → Runner)
    (arguments : List Bytes) (world : World) :
    (performOn outlet site runners arguments world).2 = (perform site runners arguments world).2 ∧
      ((∀ summary, ¬Produces site runners world arguments summary) →
        performOn outlet site runners arguments world = perform site runners arguments world) := by
  unfold perform
  cases parsed : Options.parse site.environment arguments with
  | error error =>
      rw [performOn_of_misuse parsed, performOn_of_misuse parsed]
      exact ⟨rfl, fun _ => rfl⟩
  | ok options =>
      cases configured : options.configurationIn site.defaultRoot site.directory with
      | error error =>
          rw [performOn_of_unsettled parsed configured, performOn_of_unsettled parsed configured]
          exact ⟨rfl, fun _ => rfl⟩
      | ok configuration =>
          have settled : Settled site arguments options configuration := ⟨parsed, configured⟩
          rw [settled.performOn_eq, settled.performOn_eq]
          by_cases spoiled : IsSpoiled (isLogged site options) configuration
          · rw [withConfiguration_of_spoiled spoiled, withConfiguration_of_spoiled spoiled]
            exact ⟨rfl, fun _ => rfl⟩
          · rw [withConfiguration_of_sound spoiled, withConfiguration_of_sound spoiled]
            cases ran : Run.whole configuration (runners configuration.timeout) world with
            | mk result next =>
                cases result with
                | error error => exact ⟨rfl, fun _ => rfl⟩
                | ok summary =>
                    have produced : Produces site runners world arguments summary :=
                      ⟨options, configuration, settled, spoiled, by rw [ran]⟩
                    exact ⟨rfl, fun none => absurd produced (none summary)⟩

theorem presentOn_within (room : Nat) (json : Bool) (summary : Summary) :
    presentOn (Summary.writeWithin room) json summary =
      if json = true ∨ summary.output.length ≤ room then present json summary
      else
        .finished 1 (summary.output.take room)
          (Bytes.ofText ((unprinted (.described "failed to write whole buffer")).human false)) := by
  cases json with
  | true => rfl
  | false =>
      unfold present presentOn
      rw [Summary.writeWithin_eq]
      by_cases fits : summary.output.length ≤ room
      · have whole : summary.payloads.flatten.length ≤ room := fits
        rw [if_pos (Or.inr fits), if_pos whole, List.take_of_length_le whole]
        rfl
      · have cut : ¬summary.payloads.flatten.length ≤ room := fits
        rw [if_neg (not_or.mpr ⟨Bool.false_ne_true, fits⟩), if_neg cut]
        rfl

/-- When what a run has for standard output does not fit there, as much of it is printed as fits,
the status is one, and the trouble with the output takes the place of the report. A run that is
reported as a document is not concerned. -/
theorem performOn_within (room : Nat) (site : Site) (runners : Option Duration → Runner)
    (arguments : List Bytes) (world : World) (summary : Summary)
    (produces : Produces site runners world arguments summary) :
    ∃ options, Options.parse site.environment arguments = .ok options ∧
      (performOn (Summary.writeWithin room) site runners arguments world).1 =
        if options.json = true ∨ summary.output.length ≤ room then
          (perform site runners arguments world).1
        else
          .finished 1 (summary.output.take room)
            (Bytes.ofText
              ((unprinted (.described "failed to write whole buffer")).human false)) := by
  obtain ⟨options, parsed, short⟩ := performOn_of_produces produces
  obtain ⟨other, again, ample⟩ := performOn_of_produces produces
  cases parsed.symm.trans again
  have ended : (perform site runners arguments world).1 = present options.json summary := ample
  refine ⟨options, parsed, ?_⟩
  rw [short, ended]
  exact presentOn_within room options.json summary

/-- The module of one byte does not fit on an output without room. -/
example :
    (performOn (Summary.writeWithin 0) rootSite printer (printing plainName) bareWorld).1 =
      .finished 1 []
        (Bytes.ofText
          ("error: failed to write to stdout\n" ++ "Caused by:\n" ++
            "  1: failed to write whole buffer\n")) := by
  decide +kernel

end Invocation

end CompilerDriver
