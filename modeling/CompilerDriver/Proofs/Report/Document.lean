import CompilerDriver.Proofs.Json.Presence
import CompilerDriver.Proofs.Json.Reading
import CompilerDriver.Proofs.Run.Conclusion
import CompilerDriver.Proofs.Template
import CompilerDriver.Proofs.Text.Base64

/-!
What a reader of the document learns about the run. A document has an entry for every step, in
order, which says what came of the step and carries the bytes that it puts on standard output. A run
has a document exactly when all its sources are text; its targets always are, since a template is
text and what it takes from a source is read as text first.
-/

namespace CompilerDriver

namespace Json

def get? (name : String) : Json → Option Json
  | .object fields => fields.lookup name
  | _ => none

def text? : Json → Option String
  | .text value => some value
  | _ => none

def present (fields : List (String × Option Json)) : List (String × Json) :=
  fields.flatMap fun field => field? field.1 field.2

theorem lookup_field? (name other : String) (value : Option Json) :
    (field? other value).lookup name = if name = other then value else none := by
  cases value with
  | none => exact (ite_self none).symm
  | some value =>
      by_cases same : name = other
      · rw [if_pos same, same]
        exact List.lookup_cons_self
      · have apart : (name == other) = false := beq_false_of_ne same
        rw [if_neg same, field?, List.lookup_cons, apart]
        rfl

theorem lookup_present_of_not_mem {name : String} {fields : List (String × Option Json)}
    (absent : name ∉ fields.map Prod.fst) : (present fields).lookup name = none := by
  induction fields with
  | nil => rfl
  | cons field rest ih =>
      rw [List.map_cons, List.mem_cons, not_or] at absent
      rw [present, List.flatMap_cons, List.lookup_append, lookup_field?, if_neg absent.1]
      exact ih absent.2

theorem lookup_present {name : String} {value : Option Json}
    {fields : List (String × Option Json)} (distinct : (fields.map Prod.fst).Nodup)
    (member : (name, value) ∈ fields) : (present fields).lookup name = value := by
  induction fields with
  | nil => exact absurd member List.not_mem_nil
  | cons field rest ih =>
      rw [List.map_cons, List.nodup_cons] at distinct
      rw [present, List.flatMap_cons, List.lookup_append, lookup_field?]
      rcases List.mem_cons.mp member with rfl | later
      · have noneBehind := lookup_present_of_not_mem distinct.1
        rw [present] at noneBehind
        rw [if_pos rfl, noneBehind, Option.or_none]
      · have apart : name ≠ field.1 := by
          rintro rfl
          exact distinct.1 (List.mem_map.mpr ⟨_, later, rfl⟩)
        rw [if_neg apart, Option.none_or]
        exact ih distinct.2 later

end Json

namespace Report

def carried? (entry : Json) : Option Bytes :=
  ((entry.get? "stdout_base64").bind Json.text?).bind Text.Base64.decode?

/-- An entry that says all about a step. -/
structure Records (entry : Json) (step : StepReport) : Prop where
  operation : entry.get? "operation" = some (.text step.operation.name)
  status : entry.get? "status" = some (.text step.outcome.status)
  source : entry.get? "source" = step.source.bind fun path => path.text?.map .text
  target : entry.get? "target" = step.target.bind Target.toJson?
  exitCode : entry.get? "exit_code" = step.completion.map fun completion => .number completion.status
  stderr : entry.get? "stderr" = (stderr? step).map .text
  error : entry.get? "error" = step.outcome.error?.map fun error => .text error.message
  carried : carried? entry = step.payload?

/-- A document from which all about a run can be learnt, down to the bytes for standard output. -/
structure Delivers (document : Json) (summary : Summary) : Prop where
  mode : document.get? "mode" = some (.text summary.mode.name)
  exitCode : document.get? "exit_code" = some (.number summary.exitCode)
  failures : document.get? "failures" = some (.number summary.failures)
  steps : ∃ entries, document.get? "steps" = some (.array entries) ∧
    List.Forall₂ Records entries summary.steps ∧
    (entries.filterMap carried?).flatten = summary.output

def entryFields (step : StepReport) : List (String × Option Json) :=
  [("operation", some (.text step.operation.name)), ("status", some (.text step.outcome.status)),
    ("source", step.source.bind fun path => path.text?.map .text),
    ("target", step.target.bind Target.toJson?),
    ("exit_code", step.completion.map fun completion => .number completion.status),
    ("stderr", (stderr? step).map .text),
    ("error", step.outcome.error?.map fun error => .text error.message),
    ("stdout_base64", step.payload?.map fun bytes => .text (Text.Base64.encode bytes))]

theorem pathField?_eq {path : Option Path} {name : String} {fields : List (String × Json)}
    (written : pathField? name path = some fields) :
    fields = Json.field? name (path.bind fun present => present.text?.map .text) := by
  cases path with
  | none => exact (Option.some.inj written).symm
  | some path =>
      unfold pathField? at written
      obtain ⟨text, read, rfl⟩ := Option.map_eq_some_iff.mp written
      simp only [Option.bind_some, read, Option.map_some]
      rfl

theorem targetField?_eq {target : Option Target} {fields : List (String × Json)}
    (written : targetField? target = some fields) :
    fields = Json.field? "target" (target.bind Target.toJson?) := by
  cases target with
  | none => exact (Option.some.inj written).symm
  | some target =>
      unfold targetField? at written
      obtain ⟨json, formed, rfl⟩ := Option.map_eq_some_iff.mp written
      simp only [Option.bind_some, formed]
      rfl

theorem stepDocument?_eq {step : StepReport} {entry : Json}
    (formed : stepDocument? step = some entry) :
    entry = .object (Json.present (entryFields step)) := by
  unfold stepDocument? at formed
  obtain ⟨source, sourced, formed⟩ := Option.bind_eq_some_iff.mp formed
  obtain ⟨target, targeted, formed⟩ := Option.bind_eq_some_iff.mp formed
  rw [← Option.some.inj formed, pathField?_eq sourced, targetField?_eq targeted]
  simp only [Json.present, entryFields, List.flatMap_cons, List.flatMap_nil, Json.field?,
    List.append_assoc, List.cons_append, List.nil_append, List.append_nil]

theorem entry_get? {step : StepReport} {entry : Json} (formed : stepDocument? step = some entry)
    {name : String} {value : Option Json} (member : (name, value) ∈ entryFields step) :
    entry.get? name = value := by
  have distinct : ((entryFields step).map Prod.fst).Nodup := by
    change ["operation", "status", "source", "target", "exit_code", "stderr", "error",
      "stdout_base64"].Nodup
    decide
  rw [stepDocument?_eq formed]
  exact Json.lookup_present distinct member

theorem records_of_formed {step : StepReport} {entry : Json}
    (formed : stepDocument? step = some entry) : Records entry step := by
  constructor
  case carried =>
    have field : entry.get? "stdout_base64" =
        step.payload?.map fun bytes => .text (Text.Base64.encode bytes) :=
      entry_get? formed (by simp [entryFields])
    unfold carried?
    rw [field]
    cases step.payload? with
    | none => rfl
    | some bytes => exact Text.Base64.decode?_encode bytes
  all_goals exact entry_get? formed (by simp [entryFields])

theorem payloads_of_records {entries : List Json} {steps : List StepReport}
    (recorded : List.Forall₂ Records entries steps) :
    entries.filterMap carried? = steps.filterMap StepReport.payload? := by
  induction recorded with
  | nil => rfl
  | cons head _ ih => rw [List.filterMap_cons, List.filterMap_cons, head.carried, ih]

theorem delivers_of_formed {summary : Summary} {document : Json}
    (formed : document? summary = some document) : Delivers document summary := by
  unfold document? at formed
  obtain ⟨entries, mapped, formed⟩ := Option.bind_eq_some_iff.mp formed
  cases formed
  have recorded : List.Forall₂ Records entries summary.steps :=
    (forall₂_of_mapM mapped).flip.imp fun _ _ => records_of_formed
  refine ⟨rfl, rfl, rfl, entries, rfl, recorded, ?_⟩
  rw [payloads_of_records recorded]
  rfl

/-! ### Runs that have a document -/

theorem stepDocument?_eq_none_iff {step : StepReport} :
    stepDocument? step = none ↔
      (∃ source ∈ step.source, source.text? = none) ∨
        ∃ target ∈ step.target, target.toJson? = none := by
  have sources : pathField? "source" step.source = none ↔
      ∃ source ∈ step.source, source.text? = none := by
    cases step.source <;> simp [pathField?]
  have targets : targetField? step.target = none ↔
      ∃ target ∈ step.target, target.toJson? = none := by
    cases step.target <;> simp [targetField?]
  rw [← sources, ← targets]
  unfold stepDocument?
  cases pathField? "source" step.source <;> cases targetField? step.target <;> simp

theorem document?_eq_none_iff {summary : Summary} :
    document? summary = none ↔ ∃ step ∈ summary.steps, stepDocument? step = none := by
  rw [← mapM_eq_none_iff]
  unfold document?
  cases summary.steps.mapM stepDocument? <;> simp

theorem toJson?_of_aimed {configuration : Configuration} {target : Target}
    (aimed : Run.Aimed configuration target) : target.toJson? ≠ none := by
  cases target with
  | standardOutput => exact Option.some_ne_none _
  | file path =>
      rcases aimed with impossible | ⟨source, named⟩
      · cases impossible
      · obtain ⟨before, after, name, _, _, rfl⟩ := Template.file_of_outputFor named
        have text : Path.text? ⟨Text.Utf8.encodeChars (before ++ name.toList ++ after)⟩ =
            some (.ofList (before ++ name.toList ++ after)) := by
          have read := Text.Utf8.decode?_encode (.ofList (before ++ name.toList ++ after))
          unfold Text.Utf8.encode at read
          rwa [String.toList_ofList] at read
        unfold Target.toJson?
        simp only [text]
        exact Option.some_ne_none _

theorem aimed_of_concluded {configuration : Configuration} {step : StepReport}
    (concluded : Run.Concluded configuration step) :
    ∀ target ∈ step.target, Run.Aimed configuration target := by
  intro target targeted
  cases concluded with
  | @unnamed report source error unnamed blank untargeted =>
      have bare : report.target = some target := targeted
      rw [untargeted] at bare
      cases bare
  | @answered report other answer captured aimed blank given =>
      have kept := (Run.answered_operation configuration.warnings answer report).2.2
      rw [Option.mem_def, kept, given] at targeted
      cases targeted
      exact aimed
  | @unwritten report path completion cause captured aimed kept blank given =>
      have same : report.target = some target := targeted
      rw [given] at same
      cases same
      exact aimed
  | session answer =>
      rw [(Run.sessionReport_shape answer).2.1] at targeted
      cases targeted

/-- All sources of the steps are text. -/
def IsTextual (summary : Summary) : Prop :=
  ∀ step ∈ summary.steps, ∀ source ∈ step.source, source.text? ≠ none

/-- Of a run, only a source that is not text stands in the way of a document. -/
theorem document?_of_ran {configuration : Configuration} {runner : Runner} {world : World}
    {summary : Summary} (ran : (Run.whole configuration runner world).1 = .ok summary) :
    document? summary = none ↔ ¬IsTextual summary := by
  rw [document?_eq_none_iff]
  unfold IsTextual
  constructor
  · rintro ⟨step, member, unformed⟩ textual
    rcases stepDocument?_eq_none_iff.mp unformed with
      ⟨source, sourced, unread⟩ | ⟨target, targeted, unwritten⟩
    · exact textual step member source sourced unread
    · have concluded := Run.whole_concluded ran step member
      exact toJson?_of_aimed (aimed_of_concluded concluded target targeted) unwritten
  · intro untextual
    by_contra formed
    refine untextual fun step member source sourced unread => ?_
    exact formed ⟨step, member, stepDocument?_eq_none_iff.mpr (Or.inl ⟨source, sourced, unread⟩)⟩

def readOutput? (output : Bytes) : Option Json :=
  (Text.Utf8.decode? output).bind Json.read?

theorem readOutput?_document (summary : Summary) :
    readOutput? (Bytes.ofText (document summary ++ "\n")) =
      some ((document? summary).getD (.object [])) := by
  unfold readOutput? Bytes.ofText
  have lineEnd : ∀ char ∈ "\n".toList, Json.isSpace char = true :=
    List.forall_mem_singleton.mpr rfl
  rw [Text.Utf8.decode?_encode, Option.bind_some]
  exact Json.read?_pretty _ lineEnd

theorem delivered_iff {summary : Summary} :
    (∃ read, readOutput? (Bytes.ofText (document summary ++ "\n")) = some read ∧
        Delivers read summary) ↔
      document? summary ≠ none := by
  rw [readOutput?_document]
  constructor
  · rintro ⟨read, same, delivers⟩ unformed
    rw [unformed] at same
    cases same
    exact absurd delivers.mode nofun
  · intro formed
    obtain ⟨json, formed⟩ := Option.ne_none_iff_exists'.mp formed
    rw [formed]
    exact ⟨json, rfl, delivers_of_formed formed⟩

end Report

end CompilerDriver
