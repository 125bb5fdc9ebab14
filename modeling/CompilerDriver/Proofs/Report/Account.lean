import CompilerDriver.Proofs.Report.Document

/-!
The document read back. A reader that knows the names of the fields, and refuses an object with any
other name or with the same name twice, makes of a document an account of the run: every step with
its paths as bytes, its target told apart from a file of any name, its texts character for character
and the bytes for standard output. A field is absent exactly when there was nothing to say. The only
summaries that are not read back are those with a path that is not text.
-/

namespace CompilerDriver

theorem Path.ofText_of_text? {path : Path} {text : String} (read : path.text? = some text) :
    Path.ofText text = path :=
  congrArg Path.mk (Text.Utf8.encode_of_decode? read)

namespace Json

def hasOnly (known : List String) : Json → Bool
  | .object fields => (fields.map Prod.fst).Nodup && (fields.map Prod.fst).all known.contains
  | _ => false

def number? : Json → Option Int
  | .number value => some value
  | _ => none

def items? : Json → Option (List Json)
  | .array items => some items
  | _ => none

variable {Value : Type} {json : Json} {name : String} {read : Json → Option Value}

def required? (read : Json → Option Value) (json : Json) (name : String) : Option Value :=
  (json.get? name).bind read

/-- A field that may be absent. One that is there, and is not what it should be, is refused. -/
def optional? (read : Json → Option Value) (json : Json) (name : String) :
    Option (Option Value) :=
  match json.get? name with
  | some field => (read field).map some
  | none => some none

theorem required?_of_get? {field : Json} (found : json.get? name = some field) :
    required? read json name = read field := by
  unfold required?
  rw [found, Option.bind_some]

theorem optional?_of_written {write : Value → Option Json} {value : Option Value}
    (found : json.get? name = value.bind write)
    (reads : ∀ present ∈ value, ∃ field, write present = some field ∧ read field = some present) :
    optional? read json name = some value := by
  unfold optional?
  cases value with
  | none =>
      have absent : json.get? name = none := found
      rw [absent]
  | some present =>
      obtain ⟨field, written, back⟩ := reads present rfl
      have there : json.get? name = some field := found.trans written
      rw [there]
      simp only [back, Option.map_some]

theorem optional?_of_map {Origin : Type} {write : Origin → Json} {meaning : Origin → Value}
    {origin : Option Origin} (found : json.get? name = origin.map write)
    (reads : ∀ present, read (write present) = some (meaning present)) :
    optional? read json name = some (origin.map meaning) := by
  unfold optional?
  rw [found]
  cases origin with
  | none => rfl
  | some present => simp only [Option.map_some, reads]

theorem field?_names (name : String) (value : Option Json) :
    ((field? name value).map Prod.fst).Sublist [name] := by
  cases value with
  | none => exact List.nil_sublist _
  | some json => exact List.Sublist.refl _

theorem present_names (fields : List (String × Option Json)) :
    ((present fields).map Prod.fst).Sublist (fields.map Prod.fst) := by
  induction fields with
  | nil => exact List.Sublist.refl _
  | cons field rest ih =>
      have head := field?_names field.1 field.2
      rw [present, List.flatMap_cons, List.map_append, List.map_cons]
      exact head.append ih

theorem hasOnly_present {fields : List (String × Option Json)}
    (distinct : (fields.map Prod.fst).Nodup) :
    hasOnly (fields.map Prod.fst) (.object (present fields)) = true := by
  have names := present_names fields
  have once : ((present fields).map Prod.fst).Nodup := names.nodup distinct
  have known : ((present fields).map Prod.fst).all (fields.map Prod.fst).contains = true := by
    rw [List.all_eq_true]
    intro name member
    exact List.contains_iff_mem.mpr (names.subset member)
  exact Bool.and_eq_true_iff.mpr ⟨decide_eq_true once, known⟩

end Json

namespace Report

open Json

/-! ### Accounts -/

/-- What a document says about a step. -/
structure Entry where
  operation : String
  status : String
  source : Option Path
  target : Option Target
  exitCode : Option Int
  stderr : Option String
  error : Option String
  payload : Option Bytes
  deriving Repr, DecidableEq

structure Account where
  mode : String
  exitCode : Int
  failures : Int
  entries : List Entry
  deriving Repr, DecidableEq

def path? (json : Json) : Option Path :=
  json.text?.map Path.ofText

def bytes? (json : Json) : Option Bytes :=
  json.text?.bind Text.Base64.decode?

def target? (json : Json) : Option Target := do
  guard (json.hasOnly ["kind", "path"])
  let kind ← required? Json.text? json "kind"
  let path ← optional? path? json "path"
  match path with
  | some path => if kind = "file" then some (.file path) else none
  | none => if kind = "stdout" then some .standardOutput else none

def entryNames : List String :=
  ["operation", "status", "source", "target", "exit_code", "stderr", "error", "stdout_base64"]

def entry? (json : Json) : Option Entry := do
  guard (json.hasOnly entryNames)
  let operation ← required? Json.text? json "operation"
  let status ← required? Json.text? json "status"
  let source ← optional? path? json "source"
  let target ← optional? target? json "target"
  let exitCode ← optional? number? json "exit_code"
  let stderr ← optional? Json.text? json "stderr"
  let error ← optional? Json.text? json "error"
  let payload ← optional? bytes? json "stdout_base64"
  return {
    operation := operation
    status := status
    source := source
    target := target
    exitCode := exitCode
    stderr := stderr
    error := error
    payload := payload }

def account? (json : Json) : Option Account := do
  guard (json.hasOnly ["mode", "exit_code", "failures", "steps"])
  let mode ← required? Json.text? json "mode"
  let exitCode ← required? number? json "exit_code"
  let failures ← required? number? json "failures"
  let items ← required? items? json "steps"
  let entries ← items.mapM entry?
  return { mode := mode, exitCode := exitCode, failures := failures, entries := entries }

/-- The account that a text gives, when it is one document and nothing else. -/
def readAccount? (text : String) : Option Account :=
  (Json.read? text).bind account?

/-- All that there is to say about a step. The error stream counts when there is something in it. -/
def Entry.of (step : StepReport) : Entry :=
  { operation := step.operation.name
    status := step.outcome.status
    source := step.source
    target := step.target
    exitCode := step.completion.map Completion.status
    stderr := (step.completion.filter Completion.warned).map Completion.stderrText
    error := step.outcome.error?.map StepError.message
    payload := step.payload? }

def Account.of (summary : Summary) : Account :=
  { mode := summary.mode.name
    exitCode := summary.exitCode
    failures := summary.failures
    entries := summary.steps.map Entry.of }

theorem target?_toJson? {target : Target} {json : Json} (formed : target.toJson? = some json) :
    target? json = some target := by
  cases target with
  | standardOutput =>
      cases formed
      rfl
  | file path =>
      obtain ⟨text, read, rfl⟩ := Option.map_eq_some_iff.mp formed
      have back : Path.ofText text = path := Path.ofText_of_text? read
      subst back
      rfl

theorem stepDocument?_ne_none_iff {step : StepReport} :
    stepDocument? step ≠ none ↔
      (∀ source ∈ step.source, source.text? ≠ none) ∧
        ∀ target ∈ step.target, target.toJson? ≠ none := by
  rw [Ne, stepDocument?_eq_none_iff, not_or]
  simp only [not_exists, not_and, ne_eq]

theorem stderr?_eq (step : StepReport) :
    stderr? step = (step.completion.filter Completion.warned).map Completion.stderrText := by
  unfold stderr?
  cases step.completion with
  | none => rfl
  | some completion => cases warned : completion.warned <;> simp [warned, Option.filter]

theorem entry?_of_formed {step : StepReport} {entry : Json}
    (formed : stepDocument? step = some entry) : entry? entry = some (Entry.of step) := by
  have written : stepDocument? step ≠ none := by
    rw [formed]
    exact Option.some_ne_none entry
  obtain ⟨sources, targets⟩ := stepDocument?_ne_none_iff.mp written
  have records : Records entry step := records_of_formed formed
  have distinct : ((entryFields step).map Prod.fst).Nodup := by
    change entryNames.Nodup
    decide
  have only : entry.hasOnly entryNames = true := by
    rw [stepDocument?_eq formed]
    exact hasOnly_present distinct
  have operation : required? Json.text? entry "operation" = some step.operation.name :=
    required?_of_get? records.operation
  have status : required? Json.text? entry "status" = some step.outcome.status :=
    required?_of_get? records.status
  have source : optional? path? entry "source" = some step.source := by
    refine optional?_of_written records.source ?_
    intro path member
    obtain ⟨text, read⟩ := Option.ne_none_iff_exists'.mp (sources path member)
    refine ⟨.text text, by rw [read]; rfl, ?_⟩
    exact congrArg some (Path.ofText_of_text? read)
  have target : optional? target? entry "target" = some step.target := by
    refine optional?_of_written records.target ?_
    intro target member
    obtain ⟨json, written⟩ := Option.ne_none_iff_exists'.mp (targets target member)
    exact ⟨json, written, target?_toJson? written⟩
  have exitCode : optional? number? entry "exit_code" =
      some (step.completion.map Completion.status) :=
    optional?_of_map records.exitCode fun _ => rfl
  have stderr : optional? Json.text? entry "stderr" =
      some ((step.completion.filter Completion.warned).map Completion.stderrText) := by
    have field := records.stderr
    rw [stderr?_eq, Option.map_map] at field
    exact optional?_of_map field fun _ => rfl
  have error : optional? Json.text? entry "error" =
      some (step.outcome.error?.map StepError.message) :=
    optional?_of_map records.error fun _ => rfl
  have payload : optional? bytes? entry "stdout_base64" = some step.payload? := by
    have field : entry.get? "stdout_base64" =
        step.payload?.map fun bytes => .text (Text.Base64.encode bytes) :=
      entry_get? formed (by simp [entryFields])
    have read : optional? bytes? entry "stdout_base64" = some (step.payload?.map id) :=
      optional?_of_map field Text.Base64.decode?_encode
    rwa [Option.map_id, id_eq] at read
  have allowed : (guard (entry.hasOnly entryNames = true) : Option Unit) = some () := if_pos only
  unfold entry?
  rw [allowed, operation, status, source, target, exitCode, stderr, error, payload]
  rfl

theorem mapM_entry? {steps : List StepReport} {entries : List Json}
    (formed : List.Forall₂ (fun step entry => stepDocument? step = some entry) steps entries) :
    entries.mapM entry? = some (steps.map Entry.of) := by
  induction formed with
  | nil => rfl
  | cons head _ ih =>
      rw [List.mapM_cons, entry?_of_formed head, ih]
      rfl

theorem account?_of_formed {summary : Summary} {json : Json}
    (formed : document? summary = some json) : account? json = some (Account.of summary) := by
  unfold document? at formed
  obtain ⟨entries, mapped, formed⟩ := Option.bind_eq_some_iff.mp formed
  cases formed
  have read : entries.mapM entry? = some (summary.steps.map Entry.of) :=
    mapM_entry? (forall₂_of_mapM mapped)
  change ((entries.mapM entry?).bind fun found =>
    some (Account.mk summary.mode.name summary.exitCode summary.failures found)) = _
  rw [read]
  rfl

/-- All paths of a summary are text: the sources of its steps and the files they go to. -/
def HasTextPaths (summary : Summary) : Prop :=
  ∀ step ∈ summary.steps, (∀ source ∈ step.source, source.text? ≠ none) ∧
    ∀ path, step.target = some (.file path) → path.text? ≠ none

theorem toJson?_ne_none_iff {target : Option Target} :
    (∀ goal ∈ target, goal.toJson? ≠ none) ↔
      ∀ path, target = some (.file path) → path.text? ≠ none := by
  constructor
  · intro written path targeted unread
    exact written (.file path) targeted (Option.map_eq_none_iff.mpr unread)
  · intro text goal targeted unwritten
    cases goal with
    | standardOutput => cases unwritten
    | file path => exact text path targeted (Option.map_eq_none_iff.mp unwritten)

theorem document?_ne_none_iff {summary : Summary} :
    document? summary ≠ none ↔ HasTextPaths summary := by
  rw [Ne, document?_eq_none_iff]
  unfold HasTextPaths
  simp only [not_exists, not_and, ← toJson?_ne_none_iff, ← stepDocument?_ne_none_iff, ne_eq]

/-- A summary is read back from its document, down to the last byte, exactly when its paths are
text. -/
theorem readAccount?_document (summary : Summary) :
    readAccount? (document summary) = some (Account.of summary) ↔ HasTextPaths summary := by
  have ending : ∀ char ∈ "".toList, isSpace char = true := nofun
  have read : Json.read? (document summary) =
      some ((document? summary).getD (.object [])) := by
    have padded := Json.read?_pretty ((document? summary).getD (.object [])) ending
    rwa [String.append_empty] at padded
  unfold readAccount?
  rw [read, Option.bind_some, ← document?_ne_none_iff]
  cases formed : document? summary with
  | none =>
      have nothing : account? (.object []) = none := rfl
      simp [nothing]
  | some json =>
      have same : account? json = some (Account.of summary) := account?_of_formed formed
      simp [same]

end Report

end CompilerDriver
