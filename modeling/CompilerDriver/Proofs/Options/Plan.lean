import CompilerDriver.Proofs.Options.Matching
import CompilerDriver.Proofs.Options.Setting

/-!
A command line as a plan. What a reader does with a word depends on what is pending and not on the
options collected so far. So the words alone make out a list of acts, and reading them is to perform
these acts on a draft, one after the other, until one is refused.
-/

namespace CompilerDriver.Options

inductive Act where
  | option (flag : Flag) (value : Option Bytes)
  | file (raw : Bytes)
  | refusal (error : UsageError)
  deriving Repr, DecidableEq

def Act.isOf (flag : Flag) : Act → Bool
  | .option own _ => own == flag
  | .file _ => false
  | .refusal _ => false

namespace Draft

def perform (draft : Draft) : Act → Except UsageError Draft
  | .option flag value => draft.accept flag value
  | .file raw => draft.addFile raw
  | .refusal error => .error error

def performAll (draft : Draft) : List Act → Except UsageError Draft
  | [] => .ok draft
  | act :: rest => (draft.perform act).bind fun next => next.performAll rest

theorem performAll_append (draft : Draft) (first second : List Act) :
    draft.performAll (first ++ second) =
      (draft.performAll first).bind fun next => next.performAll second := by
  induction first generalizing draft with
  | nil => rfl
  | cons act rest ih =>
      rw [List.cons_append, performAll, performAll]
      cases draft.perform act with
      | error error => rfl
      | ok next => exact ih next

theorem performAll_singleton (draft : Draft) (act : Act) :
    draft.performAll [act] = draft.perform act := by
  rw [performAll]
  cases draft.perform act <;> rfl

theorem performAll_files (draft : Draft) (words : List Bytes) :
    draft.performAll (words.map .file) = draft.addFiles words := by
  induction words generalizing draft with
  | nil => rfl
  | cons word rest ih =>
      rw [addFiles_cons, List.map_cons, performAll]
      change (draft.addFile word).bind _ = _
      cases draft.addFile word with
      | error error => rfl
      | ok next => exact ih next

end Draft

/-- The acts that words lead to, and what is pending behind them. -/
structure Plan where
  acts : List Act
  pending : Pending
  deriving Repr, DecidableEq

namespace Plan

def refused (error : UsageError) : Plan :=
  { acts := [.refusal error], pending := .nothing }

def andThen (plan : Plan) (next : Pending → Plan) : Plan :=
  { acts := plan.acts ++ (next plan.pending).acts, pending := (next plan.pending).pending }

def run (plan : Plan) (draft : Draft) : Except UsageError Reader :=
  (draft.performAll plan.acts).map fun next => { draft := next, pending := plan.pending }

theorem run_andThen (plan : Plan) (next : Pending → Plan) (draft : Draft) :
    (plan.andThen next).run draft =
      (plan.run draft).bind fun reader => (next reader.pending).run reader.draft := by
  unfold run andThen
  rw [Draft.performAll_append]
  cases draft.performAll plan.acts <;> rfl

end Plan

namespace Pending

def acts : Pending → List Act
  | .nothing => []
  | .waiting flag => [.option flag none]
  | .holding flag value => [.option flag (some value)]
  | .files words => words.map .file

def take (pending : Pending) (flag : Flag) (value : Option Bytes) : Plan :=
  { acts := pending.acts ++ [.option flag value], pending := .nothing }

def await (pending : Pending) (flag : Flag) : Plan :=
  { acts := pending.acts, pending := .waiting flag }

def file (pending : Pending) (word : Bytes) : Plan :=
  match pending with
  | .files words => { acts := [], pending := .files (words ++ [word]) }
  | _ => { acts := pending.acts, pending := .files [word] }

def plain (pending : Pending) (word : Bytes) : Plan :=
  match pending with
  | .waiting flag => { acts := [], pending := .holding flag word }
  | _ => pending.file word

def named (pending : Pending) (flag : Flag) (value : Option Bytes) : Plan :=
  match flag.arity, value with
  | .none, some _ => .refused .needlessValue
  | .none, none => pending.take flag none
  | _, some raw => pending.take flag (some raw)
  | _, none => pending.await flag

def long (pending : Pending) (word : Bytes) : Plan :=
  match Flag.ofLong? (Reader.splitValue word).1 with
  | none => .refused .unknownArgument
  | some flag => pending.named flag (Reader.splitValue word).2

def cluster (pending : Pending) : Bytes → Plan
  | [] => { acts := [], pending := pending }
  | byte :: rest =>
      match Flag.ofShort? byte with
      | none => .refused .unknownArgument
      | some flag =>
          match flag.arity, Reader.attached rest with
          | .none, _ => (pending.take flag none).andThen fun next => next.cluster rest
          | _, some raw => pending.take flag (some raw)
          | _, none => pending.await flag

def word (pending : Pending) : Bytes → Plan
  | first :: second :: rest =>
      if first = dash then
        if second = dash then pending.long rest else pending.cluster (second :: rest)
      else pending.plain (first :: second :: rest)
  | short => pending.plain short

def trailing (pending : Pending) : List Bytes → Plan
  | [] => { acts := [], pending := pending }
  | next :: rest => (pending.file next).andThen fun after => after.trailing rest

def words (pending : Pending) : List Bytes → Plan
  | [] => { acts := [], pending := pending }
  | next :: rest =>
      if next = [dash, dash] then pending.trailing rest
      else (pending.word next).andThen fun after => after.words rest

end Pending

/-- What a plan comes to, with what is still pending. -/
def Plan.asked (plan : Plan) : List Act :=
  plan.acts ++ plan.pending.acts

theorem Plan.asked_andThen (plan : Plan) (next : Pending → Plan) :
    (plan.andThen next).asked = plan.acts ++ (next plan.pending).asked :=
  List.append_assoc _ _ _

def acts (arguments : List Bytes) : List Act :=
  (Pending.nothing.words arguments).asked

/-! ### Readers follow plans -/

namespace Reader

variable (reader : Reader)

theorem settle_eq_acts : reader.settle = reader.draft.performAll reader.pending.acts := by
  unfold settle
  cases reader.pending with
  | nothing => rfl
  | waiting flag => exact (reader.draft.performAll_singleton (.option flag none)).symm
  | holding flag value => exact (reader.draft.performAll_singleton (.option flag (some value))).symm
  | files words => exact (reader.draft.performAll_files words).symm

theorem take_eq_plan (flag : Flag) (value : Option Bytes) :
    reader.take flag value = (reader.pending.take flag value).run reader.draft := by
  unfold Plan.run Pending.take
  rw [take_eq, settle_eq_acts, Draft.performAll_append]
  cases reader.draft.performAll reader.pending.acts with
  | error error => rfl
  | ok next =>
      change (next.accept flag value).map _ = (next.performAll [.option flag value]).map _
      rw [Draft.performAll_singleton]
      rfl

theorem await_eq_plan (flag : Flag) :
    reader.await flag = (reader.pending.await flag).run reader.draft := by
  unfold await
  rw [settle_eq_acts]
  rfl

theorem file_eq_plan (word : Bytes) :
    reader.file word = (reader.pending.file word).run reader.draft := by
  unfold file Pending.file
  rw [settle_eq_acts]
  cases reader.pending <;> rfl

theorem plain_eq_plan (word : Bytes) :
    reader.plain word = (reader.pending.plain word).run reader.draft := by
  have joins := reader.file_eq_plan word
  unfold plain Pending.plain
  cases pending : reader.pending with
  | waiting flag => rfl
  | nothing | holding | files =>
      rw [pending] at joins
      exact joins

theorem long_eq_plan (word : Bytes) :
    reader.long word = (reader.pending.long word).run reader.draft := by
  unfold long Pending.long
  generalize splitValue word = parts
  obtain ⟨name, value⟩ := parts
  simp only
  cases Flag.ofLong? name with
  | none => rfl
  | some flag =>
      simp only [Pending.named]
      cases flag.arity <;> cases value
      case none.some => rfl
      case none.none => exact reader.take_eq_plan flag none
      case optional.none | one.none => exact reader.await_eq_plan flag
      case optional.some | one.some => exact reader.take_eq_plan flag (some _)

theorem cluster_eq_plan (word : Bytes) :
    reader.cluster word = (reader.pending.cluster word).run reader.draft := by
  induction word generalizing reader with
  | nil => rfl
  | cons byte rest ih =>
      rw [cluster_cons, Pending.cluster]
      cases Flag.ofShort? byte with
      | none => rfl
      | some flag =>
          simp only
          cases flag.arity with
          | none =>
              simp only [Plan.run_andThen, take_eq_plan]
              congr 1
              funext next
              exact ih next
          | optional | one =>
              cases attached rest with
              | none => exact reader.await_eq_plan flag
              | some raw => exact reader.take_eq_plan flag (some raw)

theorem word_eq_plan (word : Bytes) :
    reader.word word = (reader.pending.word word).run reader.draft := by
  match word with
  | [] | [_] => exact reader.plain_eq_plan _
  | first :: second :: rest =>
      rw [Reader.word, Pending.word]
      split
      · split
        · exact reader.long_eq_plan rest
        · exact reader.cluster_eq_plan (second :: rest)
      · exact reader.plain_eq_plan (first :: second :: rest)

theorem trailing_eq_plan (words : List Bytes) :
    reader.trailing words = (reader.pending.trailing words).run reader.draft := by
  induction words generalizing reader with
  | nil => rfl
  | cons word rest ih =>
      rw [trailing_cons, Pending.trailing, Plan.run_andThen, file_eq_plan]
      congr 1
      funext next
      exact ih next

theorem words_eq_plan (words : List Bytes) :
    reader.words words = (reader.pending.words words).run reader.draft := by
  induction words generalizing reader with
  | nil => rfl
  | cons word rest ih =>
      rw [words_cons, Pending.words]
      split
      · exact reader.trailing_eq_plan rest
      · rw [Plan.run_andThen, word_eq_plan]
        congr 1
        funext next
        exact ih next

end Reader

theorem draft_eq_acts (arguments : List Bytes) :
    draft arguments = Draft.performAll {} (acts arguments) := by
  unfold draft acts Plan.asked
  rw [Reader.words_eq_plan, Draft.performAll_append]
  unfold Plan.run
  cases Draft.performAll {} (Pending.nothing.words arguments).acts with
  | error error => rfl
  | ok next => exact Reader.settle_eq_acts _

theorem parse_eq_acts (environment : Environment) (arguments : List Bytes) :
    parse environment arguments =
      ((Draft.performAll {} (acts arguments)).bind fun given =>
        given.fillAll environment Flag.all).map Draft.complete := by
  unfold parse
  rw [draft_eq_acts]
  cases Draft.performAll {} (acts arguments) <;> rfl

def Environment.value? (environment : Environment) (flag : Flag) : Option Bytes :=
  flag.environmentName?.bind fun name => environment.lookup name

def Environment.IsUnset (environment : Environment) : Prop :=
  ∀ flag, environment.value? flag = none

namespace Draft

variable {environment : Environment} {draft : Draft} {flag : Flag}

theorem fill_of_unset (unset : environment.value? flag = none) :
    draft.fill environment flag = .ok draft := by
  unfold Environment.value? at unset
  unfold fill
  rw [unset, ite_self]

theorem fillAll_unset (unset : environment.IsUnset) (draft : Draft) (flags : List Flag) :
    draft.fillAll environment flags = .ok draft := by
  induction flags with
  | nil => rfl
  | cons flag rest ih =>
      rw [fillAll_cons, fill_of_unset (unset flag)]
      exact ih

end Draft

theorem parse_unset {environment : Environment} (unset : environment.IsUnset)
    (arguments : List Bytes) :
    parse environment arguments = (Draft.performAll {} (acts arguments)).map Draft.complete := by
  rw [parse_eq_acts]
  cases Draft.performAll {} (acts arguments) with
  | error error => rfl
  | ok given =>
      change (given.fillAll environment Flag.all).map Draft.complete = _
      rw [Draft.fillAll_unset unset]

theorem isUnset_nil : Environment.IsUnset [] := by
  intro flag
  unfold Environment.value?
  cases flag.environmentName? <;> rfl

namespace Draft

variable {draft next : Draft}

theorem performed {act : Act} (done : draft.perform act = .ok next) :
    (∃ flag value setting, act = .option flag value ∧ (flag.arity = .one → value ≠ none) ∧
      draft.holds flag = false ∧ Setting.read flag value = .ok setting ∧
      next = draft.enter setting) ∨
    ∃ raw, act = .file raw ∧ draft.addFile raw = .ok next := by
  cases act with
  | option flag value =>
      obtain ⟨valued, free, setting, known, entered⟩ := accepted done
      exact Or.inl ⟨flag, value, setting, rfl, valued, free, known, entered⟩
  | file raw => exact Or.inr ⟨raw, rfl, done⟩
  | refusal error => cases done

theorem performAll_cons_ok {act : Act} {rest : List Act}
    (done : draft.performAll (act :: rest) = .ok next) :
    ∃ between, draft.perform act = .ok between ∧ between.performAll rest = .ok next := by
  rw [performAll] at done
  cases first : draft.perform act with
  | error error =>
      rw [first] at done
      cases done
  | ok between =>
      rw [first] at done
      exact ⟨between, rfl, done⟩

theorem holds_performAll {acts : List Act} (done : draft.performAll acts = .ok next)
    {flag : Flag} (single : flag.isRepeatable = false) :
    next.holds flag = (acts.any (Act.isOf flag) || draft.holds flag) := by
  induction acts generalizing draft with
  | nil =>
      cases done
      rfl
  | cons act rest ih =>
      obtain ⟨between, first, later⟩ := performAll_cons_ok done
      rw [ih later, List.any_cons]
      rcases performed first with
        ⟨own, value, setting, rfl, _, _, known, rfl⟩ | ⟨raw, rfl, added⟩
      · rw [holds_enter, Setting.flag_of_read known, single, Bool.not_false, Bool.and_true]
        change _ = (own == flag || rest.any (Act.isOf flag) || draft.holds flag)
        rw [← Bool.or_assoc, Bool.or_comm (own == flag)]
      · rw [holds_addFile added]
        rfl

theorem performAll_enter {acts : List Act} (done : draft.performAll acts = .ok next)
    {setting : Setting} (other : acts.any (Act.isOf setting.flag) = false) :
    (draft.enter setting).performAll acts = .ok (next.enter setting) := by
  induction acts generalizing draft with
  | nil =>
      cases done
      rfl
  | cons act rest ih =>
      obtain ⟨between, first, later⟩ := performAll_cons_ok done
      rw [List.any_cons, Bool.or_eq_false_iff] at other
      have moved : (draft.enter setting).perform act = .ok (between.enter setting) := by
        rcases performed first with
          ⟨flag, value, read, rfl, valued, free, known, rfl⟩ | ⟨raw, rfl, added⟩
        · -- Neither reading of the option nor its repetition depends on the setting.
          have different : flag ≠ setting.flag := ne_of_beq_false other.1
          have still : (draft.enter setting).holds flag = false := by
            rw [holds_enter_of_ne draft different.symm, free]
          change (draft.enter setting).accept flag value = _
          rw [accept_of_free still valued, known]
          refine congrArg Except.ok (draft.enter_comm ?_)
          rw [Setting.flag_of_read known]
          exact different.symm
        · change (draft.enter setting).addFile raw = _
          rw [addFile_enter, added]
          rfl
      rw [performAll, moved]
      exact ih later other.2

end Draft

end CompilerDriver.Options
