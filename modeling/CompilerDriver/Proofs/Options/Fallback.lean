import CompilerDriver.Proofs.Options.Spelling

/-!
The environment as words. A variable stands in for an option that the words do not have, and for no
other. So to ask the environment is to put the options of these variables in front of the words, and
an option that is among the words is what the words make it.
-/

namespace CompilerDriver.Options

def occurs (flag : Flag) (arguments : List Bytes) : Bool :=
  (acts arguments).any (Act.isOf flag)

def noWords : List String :=
  ["", "0", "n", "no", "f", "false", "off"]

def saysNo (raw : Bytes) : Bool :=
  noWords.contains (String.ofList ((Text.Utf8.lossy raw).toList.map Char.toLower))

/-- The option that a variable stands for. An option without a value is wished for or left out. -/
def substitute (environment : Environment) (flag : Flag) : List Token :=
  match environment.value? flag, flag.arity with
  | none, _ => []
  | some raw, .none => if saysNo raw then [] else [{ flag := flag, value := none }]
  | some raw, _ => [{ flag := flag, value := some raw }]

/-- The options that the environment has for the words, in the order of declaration. -/
def substitutes (environment : Environment) (arguments : List Bytes) : List Token :=
  Flag.all.flatMap fun flag => if occurs flag arguments then [] else substitute environment flag

theorem switch_eq_saysNo {raw : Bytes} (text : Text.Utf8.isText raw = true) :
    Value.switch raw = .ok (!saysNo raw) := by
  have reordered : noWords.Perm Value.falseWords := by decide
  unfold Value.switch Value.text Text.Utf8.decode? saysNo
  rw [if_pos text, reordered.contains_eq]

theorem single_of_value {environment : Environment} {flag : Flag} {raw : Bytes}
    (value : environment.value? flag = some raw) : flag.isRepeatable = false := by
  cases flag
  case evaluate | verbose => cases value
  all_goals rfl

theorem mem_substitute {environment : Environment} {flag : Flag} {token : Token}
    (member : token ∈ substitute environment flag) :
    token.flag = flag ∧ token.IsWhole ∧ flag.isRepeatable = false := by
  unfold substitute at member
  cases value : environment.value? flag with
  | none =>
      simp only [value] at member
      cases member
  | some raw =>
      have single := single_of_value value
      cases arity : flag.arity with
      | none =>
          simp only [value, arity] at member
          split at member
          · cases member
          · rw [List.mem_singleton.mp member]
            exact ⟨rfl, iff_of_true rfl arity, single⟩
      | optional | one =>
          simp only [value, arity] at member
          rw [List.mem_singleton.mp member]
          have needs : flag.arity ≠ .none := by
            rw [arity]
            exact Arity.noConfusion
          exact ⟨rfl, iff_of_false (Option.some_ne_none raw) needs, single⟩

theorem mem_substitutes {environment : Environment} {arguments : List Bytes} {token : Token}
    (member : token ∈ substitutes environment arguments) :
    token.IsWhole ∧ token.flag.isRepeatable = false ∧ occurs token.flag arguments = false := by
  obtain ⟨flag, _, chosen⟩ := List.mem_flatMap.mp member
  split at chosen
  · cases chosen
  · next absent =>
      obtain ⟨rfl, whole, single⟩ := mem_substitute chosen
      exact ⟨whole, single, eq_false_of_ne_true absent⟩

namespace Draft

variable {environment : Environment} {draft next : Draft} {flag : Flag}

theorem fill_of_held (held : draft.holds flag = true) : draft.fill environment flag = .ok draft :=
  if_pos held

theorem fill_of_free (free : draft.holds flag = false) {raw : Bytes}
    (value : environment.value? flag = some raw) :
    draft.fill environment flag = (Setting.read flag (some raw)).map draft.enter := by
  unfold Environment.value? at value
  unfold fill
  rw [free, if_neg Bool.false_ne_true, value]
  exact draft.store_eq_read flag raw

theorem filled (done : draft.fill environment flag = .ok next) :
    next = draft ∨ draft.holds flag = false ∧ ∃ setting, setting.flag = flag ∧
      next = draft.enter setting := by
  cases held : draft.holds flag with
  | true =>
      rw [fill_of_held held] at done
      exact Or.inl (Except.ok.inj done).symm
  | false =>
      cases value : environment.value? flag with
      | none =>
          rw [fill_of_unset value] at done
          exact Or.inl (Except.ok.inj done).symm
      | some raw =>
          rw [fill_of_free held value] at done
          cases known : Setting.read flag (some raw) with
          | error error =>
              rw [known] at done
              cases done
          | ok setting =>
              rw [known] at done
              exact Or.inr ⟨rfl, setting, Setting.flag_of_read known, (Except.ok.inj done).symm⟩

end Draft

namespace Draft

variable {draft next : Draft} {setting : Setting}

/-- A draft in which a setting stands is not changed by entering it. -/
def Stands (draft : Draft) (setting : Setting) : Prop :=
  draft.enter setting = draft

theorem Stands.held (stands : draft.Stands setting) (single : setting.flag.isRepeatable = false) :
    draft.holds setting.flag = true := by
  rw [← stands, holds_enter, beq_self_eq_true, single]
  rfl

theorem Stands.enter (stands : draft.Stands setting) (single : setting.flag.isRepeatable = false)
    {later : Setting} (free : draft.holds later.flag = false) :
    (draft.enter later).Stands setting := by
  have different : later.flag ≠ setting.flag := by
    intro same
    rw [same, stands.held single] at free
    cases free
  unfold Stands at stands ⊢
  rw [draft.enter_comm different, stands]

theorem Stands.addFile (stands : draft.Stands setting) {raw : Bytes}
    (added : draft.addFile raw = .ok next) : next.Stands setting := by
  have moved := draft.addFile_enter setting raw
  rw [stands, added] at moved
  exact (Except.ok.inj moved).symm

theorem Stands.performAll (stands : draft.Stands setting)
    (single : setting.flag.isRepeatable = false) {acts : List Act}
    (done : draft.performAll acts = .ok next) : next.Stands setting := by
  induction acts generalizing draft with
  | nil =>
      cases done
      exact stands
  | cons act rest ih =>
      obtain ⟨between, first, later⟩ := performAll_cons_ok done
      refine ih ?_ later
      rcases performed first with ⟨flag, value, read, rfl, _, free, known, rfl⟩ | ⟨raw, rfl, added⟩
      · rw [← Setting.flag_of_read known] at free
        exact stands.enter single free
      · exact stands.addFile added

theorem Stands.fillAll (stands : draft.Stands setting)
    (single : setting.flag.isRepeatable = false) {environment : Environment} {flags : List Flag}
    (done : draft.fillAll environment flags = .ok next) : next.Stands setting := by
  induction flags generalizing draft with
  | nil =>
      cases done
      exact stands
  | cons flag rest ih =>
      rw [fillAll_cons] at done
      cases first : draft.fill environment flag with
      | error error =>
          rw [first] at done
          cases done
      | ok between =>
          rw [first] at done
          refine ih ?_ done
          rcases filled first with rfl | ⟨free, entered, rfl, rfl⟩
          · exact stands
          · exact stands.enter single free

theorem stands_of_performed {acts : List Act} (done : draft.performAll acts = .ok next)
    {value : Option Bytes} (member : .option setting.flag value ∈ acts)
    (known : Setting.read setting.flag value = .ok setting)
    (single : setting.flag.isRepeatable = false) : next.Stands setting := by
  induction acts generalizing draft with
  | nil => cases member
  | cons act rest ih =>
      obtain ⟨between, first, later⟩ := performAll_cons_ok done
      rcases List.mem_cons.mp member with rfl | behind
      · obtain ⟨_, _, entered, read, rfl⟩ := accepted first
        cases known.symm.trans read
        exact Stands.performAll (draft.enter_enter single) single later
      · exact ih later behind

end Draft

/-- An option that is among the words and may stand only once is what the words make it, whatever
the environment has for it. -/
theorem adopt_of_given {environment : Environment} {arguments : List Bytes} {options : Options}
    (parsed : parse environment arguments = .ok options) {setting : Setting}
    {value : Option Bytes} (member : .option setting.flag value ∈ acts arguments)
    (known : Setting.read setting.flag value = .ok setting)
    (single : setting.flag.isRepeatable = false) : options.adopt setting = options := by
  rw [parse_eq_acts] at parsed
  cases given : Draft.performAll {} (acts arguments) with
  | error error =>
      rw [given] at parsed
      cases parsed
  | ok draft =>
      rw [given] at parsed
      change (draft.fillAll environment Flag.all).map Draft.complete = _ at parsed
      have stands : draft.Stands setting := Draft.stands_of_performed given member known single
      cases done : draft.fillAll environment Flag.all with
      | error error =>
          rw [done] at parsed
          cases parsed
      | ok next =>
          rw [done] at parsed
          rw [← Except.ok.inj parsed, ← Draft.complete_enter, stands.fillAll single done]

/-! ### Substitutes in front of the words -/

namespace Draft

theorem performAll_tokens {draft next : Draft} {acts : List Act}
    (done : draft.performAll acts = .ok next) (tokens : List Token)
    (whole : ∀ token ∈ tokens, token.IsWhole)
    (single : ∀ token ∈ tokens, token.flag.isRepeatable = false)
    (absent : ∀ token ∈ tokens, acts.any (Act.isOf token.flag) = false) :
    draft.performAll (tokens.map Token.act ++ acts) = next.performAll (tokens.map Token.act) := by
  induction tokens generalizing draft next with
  | nil => exact done
  | cons token rest ih =>
      rw [List.forall_mem_cons] at whole single absent
      have valued : token.flag.arity = .one → token.value ≠ none := by
        intro needs missing
        rw [whole.1.mp missing] at needs
        cases needs
      -- What may stand once is refused before the acts exactly when it is refused behind them.
      have held : next.holds token.flag = draft.holds token.flag := by
        rw [holds_performAll done single.1, absent.1, Bool.false_or]
      rw [List.map_cons, List.cons_append, performAll, performAll]
      change (draft.accept token.flag token.value).bind _ =
        (next.accept token.flag token.value).bind _
      rw [draft.accept_eq_read valued, next.accept_eq_read valued, held]
      split
      · rfl
      · cases known : Setting.read token.flag token.value with
        | error error => rfl
        | ok setting =>
            have own : acts.any (Act.isOf setting.flag) = false := by
              rw [Setting.flag_of_read known]
              exact absent.1
            exact ih (performAll_enter done own) whole.2 single.2 absent.2

end Draft

/-- A setting that leaves a switch as it is without any option. -/
def Setting.IsRefusal : Setting → Prop
  | .interactive wanted | .failOnWarnings wanted => wanted = false
  | _ => False

theorem Draft.complete_refusal {draft : Draft} {setting : Setting} (refusal : setting.IsRefusal)
    (free : draft.holds setting.flag = false) :
    (draft.enter setting).complete = draft.complete := by
  rw [Draft.complete_enter]
  unfold Draft.complete
  cases setting
  case interactive wanted =>
    cases refusal
    have absent : draft.interactive = none :=
      Option.not_isSome_iff_eq_none.mp (ne_true_of_eq_false free)
    rw [absent]
    rfl
  case failOnWarnings wanted =>
    cases refusal
    have absent : draft.failOnWarnings = none :=
      Option.not_isSome_iff_eq_none.mp (ne_true_of_eq_false free)
    rw [absent]
    rfl
  all_goals exact refusal.elim

theorem read_switch {environment : Environment} {flag : Flag} {raw : Bytes}
    (value : environment.value? flag = some raw) (switch : flag.arity = .none)
    (text : Text.Utf8.isText raw = true) :
    (saysNo raw = false ∧ Setting.read flag (some raw) = Setting.read flag none) ∨
    (saysNo raw = true ∧
      ∃ setting, Setting.read flag (some raw) = .ok setting ∧ setting.IsRefusal) := by
  have read := switch_eq_saysNo text
  cases flag
  case interactive =>
    simp only [Setting.read, read]
    cases saysNo raw with
    | false => exact Or.inl ⟨rfl, rfl⟩
    | true => exact Or.inr ⟨rfl, .interactive false, rfl, rfl⟩
  case failOnWarnings =>
    simp only [Setting.read, read]
    cases saysNo raw with
    | false => exact Or.inl ⟨rfl, rfl⟩
    | true => exact Or.inr ⟨rfl, .failOnWarnings false, rfl, rfl⟩
  case json | verbose | help | version => cases value
  all_goals cases switch

/-- Two drafts that come to the same and of which neither holds an option still to be asked for,
unless it is taken. -/
structure Level (taken : Flag → Bool) (flags : List Flag) (left right : Draft) : Prop where
  complete : left.complete = right.complete
  left : ∀ flag ∈ flags, flag.isRepeatable = false → left.holds flag = taken flag
  right : ∀ flag ∈ flags, flag.isRepeatable = false → right.holds flag = taken flag

theorem Matched.map_eq {Left Right Result : Type} {first : Left → Result} {second : Right → Result}
    {left : Except UsageError Left} {right : Except UsageError Right}
    (matched : Matched True (fun _ => False) (fun value other => first value = second other)
      left right) : left.map first = right.map second := by
  cases left with
  | ok value =>
      cases right with
      | ok other => exact congrArg Except.ok matched
      | error error => exact absurd matched not_false
  | error error =>
      cases right with
      | ok other => exact absurd matched not_false
      | error other => exact congrArg Except.error (matched trivial)

section Drafts

variable {environment : Environment} {taken : Flag → Bool} {flag : Flag} {rest flags : List Flag}
  {left right : Draft}

theorem Level.behind (level : Level taken (flag :: rest) left right) : Level taken rest left right :=
  ⟨level.complete, fun other member => level.left other (List.mem_cons_of_mem _ member),
    fun other member => level.right other (List.mem_cons_of_mem _ member)⟩

theorem Level.enter (level : Level taken (flag :: rest) left right) (new : flag ∉ rest)
    {setting : Setting} (own : setting.flag = flag) :
    Level taken rest (left.enter setting) (right.enter setting) := by
  have different : ∀ other ∈ rest, setting.flag ≠ other := by
    rintro other member rfl
    exact new (own ▸ member)
  refine ⟨?_, ?_, ?_⟩
  · rw [Draft.complete_enter, Draft.complete_enter, level.complete]
  · intro other member single
    rw [Draft.holds_enter_of_ne left (different other member)]
    exact level.behind.left other member single
  · intro other member single
    rw [Draft.holds_enter_of_ne right (different other member)]
    exact level.behind.right other member single

theorem Level.refuse (level : Level taken (flag :: rest) left right) (new : flag ∉ rest)
    {setting : Setting} (own : setting.flag = flag) (free : left.holds flag = false)
    (refusal : setting.IsRefusal) : Level taken rest (left.enter setting) right := by
  refine ⟨?_, ?_, level.behind.right⟩
  · rw [Draft.complete_refusal refusal (own ▸ free), level.complete]
  · exact (level.enter new own).left

/-- Both drafts are given the same setting, or are refused it for the same reason. -/
theorem Level.read (level : Level taken (flag :: rest) left right) (new : flag ∉ rest)
    {value : Option Bytes} :
    Matched True (fun _ => False) (Level taken rest) ((Setting.read flag value).map left.enter)
      ((Setting.read flag value).map right.enter) := by
  cases known : Setting.read flag value with
  | error error => exact fun _ => rfl
  | ok setting => exact level.enter new (Setting.flag_of_read known)

theorem Level.fill_free (level : Level taken (flag :: rest) left right) (new : flag ∉ rest)
    (lefts : left.holds flag = false) (rights : right.holds flag = false) {raw : Bytes}
    (value : environment.value? flag = some raw)
    (text : flag.arity = .none → Text.Utf8.isText raw = true) :
    Matched True (fun _ => False) (Level taken rest) (left.fill environment flag)
      (right.performAll ((substitute environment flag).map Token.act)) := by
  have chosen := substitute.eq_def environment flag
  rw [Draft.fill_of_free lefts value]
  cases arity : flag.arity with
  | none =>
      simp only [value, arity] at chosen
      have valued : flag.arity = .one → (none : Option Bytes) ≠ none := by
        intro needs
        cases arity.symm.trans needs
      rcases read_switch value arity (text arity) with
        ⟨yes, same⟩ | ⟨no, setting, known, refusal⟩
      · rw [chosen, yes, if_neg Bool.false_ne_true, List.map_singleton,
          Draft.performAll_singleton, same]
        change Matched _ _ _ _ (right.accept flag none)
        rw [Draft.accept_of_free rights valued]
        exact level.read new
      · -- The variable enters a no, and the words have nothing to enter.
        rw [chosen, no, if_pos rfl, known]
        exact level.refuse new (Setting.flag_of_read known) lefts refusal
  | optional | one =>
      simp only [value, arity] at chosen
      rw [chosen, List.map_singleton, Draft.performAll_singleton]
      change Matched _ _ _ _ (right.accept flag (some raw))
      rw [Draft.accept_of_free rights fun _ => Option.some_ne_none raw]
      exact level.read new

theorem Level.fill (level : Level taken (flag :: rest) left right) (new : flag ∉ rest)
    (texts : flag.arity = .none → taken flag = false → ∀ raw, environment.value? flag = some raw →
      Text.Utf8.isText raw = true) :
    Matched True (fun _ => False) (Level taken rest) (left.fill environment flag)
      (right.performAll
        ((if taken flag then [] else substitute environment flag).map Token.act)) := by
  cases value : environment.value? flag with
  | none =>
      have chosen := substitute.eq_def environment flag
      simp only [value] at chosen
      rw [Draft.fill_of_unset value, chosen, ite_self]
      exact level.behind
  | some raw =>
      have single := single_of_value value
      have lefts := level.left flag List.mem_cons_self single
      have rights := level.right flag List.mem_cons_self single
      cases free : taken flag with
      | true =>
          rw [Draft.fill_of_held (lefts.trans free)]
          exact level.behind
      | false =>
          rw [if_neg Bool.false_ne_true]
          exact level.fill_free new (lefts.trans free) (rights.trans free) value
            fun switch => texts switch free raw value

theorem Level.fillAll (level : Level taken flags left right) (distinct : flags.Nodup)
    (texts : ∀ flag, flag.arity = .none → taken flag = false → ∀ raw,
      environment.value? flag = some raw → Text.Utf8.isText raw = true) :
    Matched True (fun _ => False) (fun left right => left.complete = right.complete)
      (left.fillAll environment flags)
      (right.performAll ((flags.flatMap fun flag =>
        if taken flag then [] else substitute environment flag).map Token.act)) := by
  induction flags generalizing left right with
  | nil => exact level.complete
  | cons flag rest ih =>
      rw [List.nodup_cons] at distinct
      rw [Draft.fillAll_cons, List.flatMap_cons, List.map_append, Draft.performAll_append]
      refine (level.fill distinct.1 (texts flag)).bind ?_ (fun _ never => never.elim)
      intro value other next
      exact ih next distinct.2

end Drafts

/-! ### Command lines and their environment -/

theorem parse_eq_substitutes {environment : Environment} {arguments : List Bytes}
    (parses : ∃ options, parse [] arguments = .ok options)
    (texts : ∀ flag, flag.arity = .none → occurs flag arguments = false → ∀ raw,
      environment.value? flag = some raw → Text.Utf8.isText raw = true) :
    parse environment arguments =
      parse [] ((substitutes environment arguments).map Token.word ++ arguments) := by
  obtain ⟨options, parsed⟩ := parses
  rw [parse_unset isUnset_nil] at parsed
  rw [parse_unset isUnset_nil, parse_eq_acts,
    acts_append _ fun _ member => (mem_substitutes member).1]
  cases given : Draft.performAll {} (acts arguments) with
  | error error =>
      rw [given] at parsed
      cases parsed
  | ok draft =>
      have holds : ∀ flag : Flag, flag.isRepeatable = false →
          draft.holds flag = occurs flag arguments := by
        intro flag single
        rw [Draft.holds_performAll given single]
        cases flag <;> exact Bool.or_false _
      -- Both sides go on from the draft that the words alone make.
      have level : Level (fun flag => occurs flag arguments) Flag.all draft draft :=
        ⟨rfl, fun flag _ => holds flag, fun flag _ => holds flag⟩
      have moved := Draft.performAll_tokens given (substitutes environment arguments)
        (fun _ member => (mem_substitutes member).1)
        (fun _ member => (mem_substitutes member).2.1)
        (fun _ member => (mem_substitutes member).2.2)
      rw [moved]
      exact (level.fillAll Flag.nodup_all texts).map_eq

theorem substitutes_congr {environment other : Environment} {arguments : List Bytes}
    (agree : ∀ flag, occurs flag arguments = false →
      other.value? flag = environment.value? flag) :
    substitutes other arguments = substitutes environment arguments := by
  unfold substitutes
  congr 1
  funext flag
  split
  · rfl
  · next absent =>
      unfold substitute
      rw [agree flag (eq_false_of_ne_true absent)]

/-- Where the words alone are accepted, the environment is asked as if the options of its variables
stood in front of the words, unless they are among the words. The variables of options among the
words have no effect, whatever they are, and a wish for a bootstrap without a source stays one. -/
theorem parse_fallback (environment : Environment) (arguments : List Bytes)
    (parses : ∃ options, parse [] arguments = .ok options)
    (texts : ∀ flag, flag.arity = .none → occurs flag arguments = false → ∀ raw,
      environment.value? flag = some raw → Text.Utf8.isText raw = true) :
    parse environment arguments =
        parse [] ((substitutes environment arguments).map Token.word ++ arguments) ∧
      (∀ other : Environment, (∀ flag, occurs flag arguments = false →
          other.value? flag = environment.value? flag) →
        parse other arguments = parse environment arguments) ∧
      (.option .bootstrap none ∈ acts arguments → ∀ options,
        parse environment arguments = .ok options → options.bootstrap = some none) := by
  refine ⟨parse_eq_substitutes parses texts, ?_, ?_⟩
  · intro other agree
    have others : ∀ flag, flag.arity = .none → occurs flag arguments = false → ∀ raw,
        other.value? flag = some raw → Text.Utf8.isText raw = true := by
      intro flag switch absent raw value
      exact texts flag switch absent raw ((agree flag absent).symm.trans value)
    rw [parse_eq_substitutes parses texts, parse_eq_substitutes parses others,
      substitutes_congr agree]
  · intro bare options parsed
    have kept : options.adopt (.bootstrap none) = options :=
      adopt_of_given parsed bare rfl rfl
    rw [← kept]
    rfl

/-- A variable of every kind: one whose option is among the words and that could not be read, one
with a number, a no and a yes. -/
def mixedEnvironment : Environment :=
  [("SCHISM_BOOTSTRAP", []), ("SCHISM_JOBS", Bytes.ofText "4"),
   ("SCHISM_INTERACTIVE", Bytes.ofText "Off"), ("SCHISM_FAIL_ON_WARNINGS", Bytes.ofText "1")]

/-- A bootstrap without a source, after a short option in the same word, and a file. -/
def mixedWords : List Bytes :=
  [Bytes.ofText "-vb", Bytes.ofText "--", Bytes.ofText "a.ss"]

def mixedTokens : List Token :=
  [{ flag := .jobs, value := some (Bytes.ofText "4") }, { flag := .failOnWarnings, value := none }]

theorem mixedWords_fallback :
    (∃ options, parse [] mixedWords = .ok options) ∧
      .option .bootstrap none ∈ acts mixedWords ∧
      parse mixedEnvironment mixedWords =
        parse [] (mixedTokens.map Token.word ++ mixedWords) ∧
      ∀ options, parse mixedEnvironment mixedWords = .ok options →
        options.bootstrap = some none := by
  have parses : ∃ options, parse [] mixedWords = .ok options := ⟨_, rfl⟩
  have bare : .option .bootstrap none ∈ acts mixedWords := by decide
  have chosen : substitutes mixedEnvironment mixedWords = mixedTokens := by decide
  have settled := parse_fallback mixedEnvironment mixedWords parses ?_
  · rw [chosen] at settled
    exact ⟨parses, bare, settled.1, settled.2.2 bare⟩
  intro flag switch _ raw value
  cases flag
  case interactive | failOnWarnings =>
    cases value
    decide
  case json | verbose | help | version => cases value
  all_goals cases switch

end CompilerDriver.Options
