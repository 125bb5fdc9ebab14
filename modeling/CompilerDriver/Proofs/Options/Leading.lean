import CompilerDriver.Proofs.Options.Matching

/-!
One more flag in front of the words. A flag that asks for more log records raises a counter, and the
flag for the document form chooses the form. Neither has a bearing on any other setting, nor on
whether the words are accepted, except that the form may be chosen only once.
-/

namespace CompilerDriver.Options

namespace Draft

def amend (louder : Nat → Nat) (form : Option Bool → Option Bool) (draft : Draft) : Draft :=
  { draft with verbosity := louder draft.verbosity, json := form draft.json }

variable (louder : Nat → Nat) (form : Option Bool → Option Bool) (draft : Draft)

theorem holds_amend {flag : Flag} (other : flag ≠ .json) :
    (draft.amend louder form).holds flag = draft.holds flag := by
  cases flag with
  | json => exact absurd rfl other
  | _ => rfl

theorem store_amend (flag : Flag) (raw : Bytes) :
    (draft.amend louder form).store flag raw =
      (draft.store flag raw).map (amend louder form) := by
  cases flag <;> simp only [store]
  case stage => cases Value.stage raw <;> rfl
  case interactive => cases Value.switch raw <;> rfl
  case evaluate => cases Value.text raw <;> rfl
  case template => cases Value.text raw <;> rfl
  case runtime => cases Value.runtime raw <;> rfl
  case jobs => cases Value.count raw <;> rfl
  case timeout => cases Value.count raw <;> rfl
  case failOnWarnings => cases Value.switch raw <;> rfl
  case json | verbose | help | version => rfl
  all_goals cases Value.path raw <;> rfl

theorem addFile_amend (raw : Bytes) :
    (draft.amend louder form).addFile raw = (draft.addFile raw).map (amend louder form) := by
  unfold addFile
  cases Value.path raw <;> rfl

theorem fill_amend (environment : Environment) (flag : Flag) :
    (draft.amend louder form).fill environment flag =
      (draft.fill environment flag).map (amend louder form) := by
  unfold fill
  by_cases own : flag = .json
  · subst own
    have unnamed : (Flag.environmentName? .json).bind (fun name => environment.lookup name) = none :=
      rfl
    simp only [unnamed, ite_self]
    rfl
  · rw [holds_amend louder form draft own]
    split
    · rfl
    · cases flag.environmentName?.bind fun name => environment.lookup name with
      | none => rfl
      | some raw => exact store_amend louder form draft flag raw

end Draft

def verboseWord : Bytes := Bytes.ofText "-v"

def verbosely (count : Nat) (arguments : List Bytes) : List Bytes :=
  List.replicate count verboseWord ++ arguments

def raised (count verbosity : Nat) : Nat :=
  min (verbosity + count) Draft.verbosityLimit

def Draft.louder (count : Nat) : Draft → Draft :=
  Draft.amend (raised count) id

theorem Draft.mark_louder (count : Nat) (draft : Draft) (flag : Flag) :
    (draft.louder count).mark flag = (draft.mark flag).map (Draft.louder count) := by
  cases flag with
  | verbose =>
      have sum : min (raised count draft.verbosity + 1) verbosityLimit =
          raised count (min (draft.verbosity + 1) verbosityLimit) := by
        unfold raised
        omega
      simp only [mark, louder, amend, sum, id]
      rfl
  | _ => rfl

theorem Draft.accept_louder (count : Nat) (draft : Draft) (flag : Flag) (value : Option Bytes) :
    (draft.louder count).accept flag value =
      (draft.accept flag value).map (Draft.louder count) := by
  have held : (draft.louder count).holds flag = draft.holds flag := by cases flag <;> rfl
  unfold accept
  rw [held]
  split
  · rfl
  · split
    · rfl
    · cases value with
      | none => exact mark_louder count draft flag
      | some raw => exact store_amend (raised count) id draft flag raw

theorem kept_louder (count : Nat) :
    Kept True (fun _ => False) fun left right => right = left.louder count := by
  refine ⟨?_, ?_, ?_, Lasting.none, fun _ never => never.elim⟩
  · rintro left _ flag value rfl
    exact matched_map_iff.mpr (Draft.accept_louder count left flag value)
  · rintro left _ raw rfl
    exact matched_map_iff.mpr (Draft.addFile_amend _ _ left raw)
  · rintro left _ environment flag rfl
    exact matched_map_iff.mpr (Draft.fill_amend _ _ left environment flag)

theorem words_verbose (verbosity : Nat) (arguments : List Bytes) :
    Reader.words { draft := { verbosity := verbosity } } (verboseWord :: arguments) =
      Reader.words { draft := { verbosity := raised 1 verbosity } } arguments := rfl

theorem words_verbosely (first count : Nat) (arguments : List Bytes) :
    Reader.words { draft := { verbosity := raised first 0 } } (verbosely count arguments) =
      Reader.words { draft := { verbosity := raised (first + count) 0 } } arguments := by
  induction count generalizing first with
  | zero => rfl
  | succ count ih =>
      have sum : raised 1 (raised first 0) = raised (first + 1) 0 := by
        unfold raised
        omega
      change Reader.words _ (verboseWord :: verbosely count arguments) = _
      rw [words_verbose, sum, ih (first + 1), Nat.add_assoc, Nat.add_comm 1]

theorem conclude_of_words {environment : Environment} {reader other : Reader}
    {arguments words : List Bytes} (same : reader.words arguments = other.words words) :
    reader.conclude environment arguments = other.conclude environment words := by
  unfold Reader.conclude
  rw [same]

theorem conclude_verbosely (environment : Environment) (count : Nat) (arguments : List Bytes) :
    Reader.conclude environment (verbosely count arguments) {} =
      Reader.conclude environment arguments { draft := Draft.louder count {} } := by
  apply conclude_of_words
  have words := words_verbosely 0 count arguments
  rw [Nat.zero_add] at words
  exact words

/-- Wishes for more log records in front of the words change the verbosity, and nothing else. -/
theorem parse_verbosely (environment : Environment) (count : Nat) (arguments : List Bytes) :
    parse environment (verbosely count arguments) =
      (parse environment arguments).map fun options =>
        { options with verbosity := raised count options.verbosity } := by
  have begun : Abreast (fun left right => right = left.louder count) {}
      { draft := Draft.louder count {} } := ⟨rfl, rfl⟩
  have louder := matched_map_iff.mp (begun.conclude (kept_louder count) environment arguments)
  rw [parse_eq_conclude, parse_eq_conclude, conclude_verbosely, louder]
  cases Reader.conclude environment arguments {} <;> rfl

/-! ### The document form -/

def documentWord : Bytes := Bytes.ofText "--json"

def Draft.formatted : Draft → Draft :=
  Draft.amend id fun _ => some true

/-- The second draft asks for a document, and the first one, which does not, is otherwise the same.
-/
def Draft.IsFormatted (plain formatted : Draft) : Prop :=
  plain.json = none ∧ formatted = plain.formatted

theorem Draft.accept_form {flag : Flag} (other : flag ≠ .json)
    (form : Option Bool → Option Bool) (draft : Draft) (value : Option Bytes) :
    (draft.amend id form).accept flag value =
      (draft.accept flag value).map (Draft.amend id form) := by
  unfold accept
  rw [holds_amend id form draft other]
  split
  · rfl
  · split
    · rfl
    · cases value with
      | some raw => exact store_amend id form draft flag raw
      | none =>
          cases flag with
          | json => exact absurd rfl other
          | _ => rfl

theorem json_of_step {draft next : Draft} (step : Draft → Except UsageError Draft)
    (commutes : ∀ form, step (draft.amend id form) = (step draft).map (Draft.amend id form))
    (stepped : step draft = .ok next) : next.json = draft.json := by
  have kept : step draft = (step draft).map (Draft.amend id fun _ => draft.json) :=
    commutes fun _ => draft.json
  rw [stepped] at kept
  have unchanged : next = next.amend id fun _ => draft.json := Except.ok.inj kept
  have same : next.json = (next.amend id fun _ => draft.json).json :=
    congrArg Draft.json unchanged
  exact same

/-- The drafts over which one more wish for the document form is refused. -/
def Draft.HasForm (draft : Draft) : Prop :=
  draft.json = some true

theorem lasting_hasForm : Lasting Draft.HasForm := by
  constructor
  · intro draft next flag value given accepted
    by_cases own : flag = .json
    · subst own
      have held : draft.holds .json = true := Option.isSome_iff_exists.mpr ⟨true, given⟩
      unfold Draft.accept at accepted
      rw [if_neg (fun short => Arity.noConfusion short.1), if_pos held] at accepted
      cases accepted
    · have same : next.json = draft.json := json_of_step (fun draft => draft.accept flag value)
        (fun form => Draft.accept_form own form draft value) accepted
      exact same.trans given
  · intro draft next raw given accepted
    have same : next.json = draft.json := json_of_step (fun draft => draft.addFile raw)
      (fun form => Draft.addFile_amend id form draft raw) accepted
    exact same.trans given
  · intro draft next environment flag given accepted
    have same : next.json = draft.json :=
      json_of_step (fun draft => draft.fill environment flag)
        (fun form => Draft.fill_amend id form draft environment flag) accepted
    exact same.trans given

theorem matched_formatted {plain : Draft} (step : Draft → Except UsageError Draft)
    (commutes : ∀ form, step (plain.amend id form) = (step plain).map (Draft.amend id form))
    (bare : plain.json = none) :
    Matched False Draft.HasForm Draft.IsFormatted (step plain) (step plain.formatted) := by
  have formatted := commutes fun _ => some true
  unfold Draft.formatted
  rw [formatted]
  cases stepped : step plain with
  | error error => exact False.elim
  | ok next => exact ⟨(json_of_step step commutes stepped).trans bare, rfl⟩

theorem kept_formatted : Kept False Draft.HasForm Draft.IsFormatted := by
  refine ⟨?_, ?_, ?_, lasting_hasForm, fun _ _ => not_false⟩
  · rintro left _ flag value ⟨bare, rfl⟩
    by_cases own : flag = .json
    · -- The second draft refuses the flag, which marks the first one, or lacks its value there.
      subst own
      have repeated : left.formatted.accept .json value = .error .repeated := rfl
      have held : left.holds .json = false := by
        change left.json.isSome = false
        rw [bare]
        rfl
      rw [repeated]
      unfold Draft.accept
      rw [if_neg fun short => Arity.noConfusion short.1, held, if_neg Bool.false_ne_true]
      cases value with
      | none => exact rfl
      | some raw => exact False.elim
    · exact matched_formatted (fun draft => draft.accept flag value)
        (fun form => Draft.accept_form own form left value) bare
  · rintro left _ raw ⟨bare, rfl⟩
    exact matched_formatted (fun draft => draft.addFile raw)
      (fun form => Draft.addFile_amend id form left raw) bare
  · rintro left _ environment flag ⟨bare, rfl⟩
    exact matched_formatted (fun draft => draft.fill environment flag)
      (fun form => Draft.fill_amend id form left environment flag) bare

theorem words_document (arguments : List Bytes) :
    Reader.words {} (documentWord :: arguments) =
      Reader.words { draft := Draft.formatted {} } arguments := rfl

theorem matched_document (environment : Environment) (arguments : List Bytes) :
    Matched False Draft.HasForm Draft.IsFormatted (Reader.conclude environment arguments {})
      (Reader.conclude environment (documentWord :: arguments) {}) := by
  have begun : Abreast Draft.IsFormatted {} { draft := Draft.formatted {} } := ⟨⟨rfl, rfl⟩, rfl⟩
  rw [conclude_of_words (words_document arguments)]
  exact begun.conclude kept_formatted environment arguments

theorem complete_formatted (draft : Draft) :
    draft.formatted.complete = { draft.complete with json := true } := rfl

/-- Words with a wish for the document form in front of them are accepted exactly when they are
accepted without it and hold no such wish already. The two differ in nothing but the form. -/
theorem parse_document_iff {environment : Environment} {arguments : List Bytes}
    {options : Options} :
    parse environment (documentWord :: arguments) = .ok options ↔
      options.json = true ∧ parse environment arguments = .ok { options with json := false } := by
  have matched := matched_document environment arguments
  rw [parse_eq_conclude, parse_eq_conclude]
  generalize Reader.conclude environment (documentWord :: arguments) {} = formatted at matched ⊢
  generalize Reader.conclude environment arguments {} = plain at matched ⊢
  cases formatted with
  | ok right =>
      obtain ⟨left, rfl, bare, rfl⟩ := matched.accepted
      have formless : left.complete.json = false := by
        change left.json.getD false = false
        rw [bare]
        rfl
      constructor
      · intro accepted
        have completed : left.formatted.complete = options := Except.ok.inj accepted
        subst completed
        refine ⟨rfl, congrArg Except.ok ?_⟩
        rw [complete_formatted, ← formless]
      · rintro ⟨asked, accepted⟩
        have completed : left.complete = { options with json := false } := Except.ok.inj accepted
        refine congrArg Except.ok ?_
        rw [complete_formatted, completed, ← asked]
  | error error =>
      constructor
      · intro accepted
        cases accepted
      · rintro ⟨asked, accepted⟩
        cases plain with
        | error other => cases accepted
        | ok left =>
            have given : left.json = some true := matched
            have completed : left.complete = { options with json := false } :=
              Except.ok.inj accepted
            have form : left.json.getD false = false := congrArg Options.json completed
            rw [given] at form
            cases form

end CompilerDriver.Options
