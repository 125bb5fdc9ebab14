import CompilerDriver.Proofs.Options.Spelling
import CompilerDriver.Proofs.Options.Value
import Mathlib.Data.List.Flatten
import Mathlib.Logic.Function.Iterate

/-!
Settings written out and read back. The options of an invocation are spelled one by one, in any
order that leaves the forms in theirs, and the files come behind the end of the options. Reading
these words gives the same settings. What decides is that the settings of one option keep their
order, because settings of different options do not meet.
-/

namespace CompilerDriver.Options

namespace Setting

def value? : Setting → Option Bytes
  | .bootstrap source => source.map Path.bytes
  | .image path | .root path | .host path | .node path | .launcher path => some path.bytes
  | .stage number | .jobs number | .timeout number => some (Value.decimal number)
  | .evaluate text | .template text => some (Bytes.ofText text)
  | .runtime wanted => some (Bytes.ofText wanted.name)
  | .interactive _ | .failOnWarnings _ | .json | .verbose => none

def token (setting : Setting) : Token :=
  { flag := setting.flag, value := setting.value? }

def isOf (flag : Flag) (setting : Setting) : Bool :=
  setting.flag == flag

/-- No path is empty, a stage has thirty-two bits and a count sixty-four, and a switch that is off
has no word for it. -/
def IsSpellable : Setting → Prop
  | .bootstrap source => ∀ path, source = some path → path.bytes ≠ []
  | .image path | .root path | .host path | .node path | .launcher path => path.bytes ≠ []
  | .stage number => number < 4294967296
  | .jobs number | .timeout number => number < 18446744073709551616
  | .interactive wanted | .failOnWarnings wanted => wanted = true
  | .evaluate _ | .template _ | .runtime _ | .json | .verbose => True

theorem token_fitting (setting : Setting) : setting.token.IsFitting := by
  cases setting
  case bootstrap source => exact Or.inr rfl
  case interactive | failOnWarnings | json | verbose => exact Or.inl (iff_of_true rfl rfl)
  all_goals exact Or.inl (iff_of_false (Option.some_ne_none _) Arity.noConfusion)

theorem read_value {setting : Setting} (spellable : setting.IsSpellable) :
    Setting.read setting.flag setting.value? = .ok setting := by
  cases setting
  case bootstrap source =>
    cases source with
    | none => rfl
    | some path =>
        change (Value.path path.bytes).map (fun path => Setting.bootstrap (some path)) = _
        rw [Value.path_bytes (spellable path rfl)]
        rfl
  case stage number =>
    change (Value.stage (Value.decimal number)).map Setting.stage = _
    rw [Value.stage_decimal spellable]
    rfl
  case jobs number =>
    change (Value.count (Value.decimal number)).map Setting.jobs = _
    rw [Value.count_decimal spellable]
    rfl
  case timeout number =>
    change (Value.count (Value.decimal number)).map Setting.timeout = _
    rw [Value.count_decimal spellable]
    rfl
  case evaluate form =>
    change (Value.text (Bytes.ofText form)).map Setting.evaluate = _
    rw [Value.text_ofText]
    rfl
  case template text =>
    change (Value.text (Bytes.ofText text)).map Setting.template = _
    rw [Value.text_ofText]
    rfl
  case runtime wanted =>
    change (Value.runtime (Bytes.ofText wanted.name)).map Setting.runtime = _
    rw [Value.runtime_ofText]
    rfl
  case interactive wanted | failOnWarnings wanted =>
    cases spellable
    rfl
  case json | verbose => rfl
  case image path | root path | host path | node path | launcher path =>
    change (Value.path path.bytes).map _ = _
    rw [Value.path_bytes spellable]
    rfl

end Setting

namespace Draft

theorem holds_repeatable (draft : Draft) {flag : Flag} (repeatable : flag.isRepeatable = true) :
    draft.holds flag = false := by
  cases flag
  case evaluate | verbose => rfl
  all_goals cases repeatable

/-- Settings that may stand side by side: of different options, or of one that may be repeated. -/
def Apart (first second : Setting) : Prop :=
  first.flag ≠ second.flag ∨ first.flag.isRepeatable = true

theorem performAll_settings {draft : Draft} {settings : List Setting}
    (spellable : ∀ setting ∈ settings, setting.IsSpellable) (apart : settings.Pairwise Apart)
    (free : ∀ setting ∈ settings, draft.holds setting.flag = false) :
    draft.performAll (settings.map fun setting => setting.token.act) =
      .ok (settings.foldl enter draft) := by
  induction settings generalizing draft with
  | nil => rfl
  | cons setting rest ih =>
      rw [List.forall_mem_cons] at spellable free
      rw [List.pairwise_cons] at apart
      have valued : setting.flag.arity = .one → setting.value? ≠ none := by
        intro needs missing
        rcases setting.token_fitting with whole | optional
        · cases needs.symm.trans (whole.mp missing)
        · cases needs.symm.trans optional
      have still : ∀ later ∈ rest, (draft.enter setting).holds later.flag = false := by
        intro later member
        rcases apart.1 later member with different | repeatable
        · rw [holds_enter_of_ne draft different]
          exact free.2 later member
        · by_cases same : setting.flag = later.flag
          · exact holds_repeatable _ (same ▸ repeatable)
          · rw [holds_enter_of_ne draft same]
            exact free.2 later member
      rw [List.map_cons, performAll]
      change (draft.accept setting.flag setting.value?).bind _ = _
      rw [accept_of_free free.1 valued, Setting.read_value spellable.1]
      exact ih spellable.2 apart.2 still

theorem addFiles_bytes (draft : Draft) {files : List Path}
    (named : ∀ path ∈ files, path.bytes ≠ []) :
    draft.addFiles (files.map Path.bytes) = .ok { draft with files := draft.files ++ files } := by
  induction files generalizing draft with
  | nil =>
      rw [List.append_nil]
      rfl
  | cons path rest ih =>
      rw [List.forall_mem_cons] at named
      rw [List.map_cons, addFiles_cons, addFile, Value.path_bytes named.1]
      change Draft.addFiles _ _ = _
      rw [ih _ named.2]
      simp only [List.append_assoc, List.singleton_append]

theorem foldl_enter (draft : Draft) {setting : Setting} {settings : List Setting}
    (different : ∀ other ∈ settings, setting.flag ≠ other.flag) :
    settings.foldl enter (draft.enter setting) = (settings.foldl enter draft).enter setting := by
  induction settings generalizing draft with
  | nil => rfl
  | cons other rest ih =>
      rw [List.forall_mem_cons] at different
      rw [List.foldl_cons, List.foldl_cons, draft.enter_comm different.1]
      exact ih _ different.2

/-- Two orders in which the settings of each option follow upon each other in the same way lead to
the same draft. -/
theorem foldl_enter_congr (draft : Draft) {first second : List Setting}
    (same : ∀ flag, first.filter (Setting.isOf flag) = second.filter (Setting.isOf flag)) :
    first.foldl enter draft = second.foldl enter draft := by
  induction first generalizing draft second with
  | nil =>
      cases second with
      | nil => rfl
      | cons setting rest =>
          have own := same setting.flag
          have isOwn : Setting.isOf setting.flag setting = true := beq_self_eq_true setting.flag
          rw [List.filter_cons_of_pos isOwn] at own
          cases own
  | cons setting rest ih =>
      have own := same setting.flag
      have isOwn : Setting.isOf setting.flag setting = true := beq_self_eq_true setting.flag
      rw [List.filter_cons_of_pos isOwn] at own
      -- In the second order the setting is the first of its option, so it may come to the front.
      obtain ⟨before, after, rfl, others, _, behind⟩ := List.filter_eq_cons_iff.mp own.symm
      have different : ∀ other ∈ before, setting.flag ≠ other.flag := by
        intro other member equal
        exact others other member (beq_iff_eq.mpr equal.symm)
      -- Without the setting, the two orders are alike again.
      have alike : ∀ flag, rest.filter (Setting.isOf flag) =
          (before ++ after).filter (Setting.isOf flag) := by
        intro flag
        by_cases equal : setting.flag = flag
        · subst equal
          rw [List.filter_append, List.filter_eq_nil_iff.mpr others, behind]
          rfl
        · have foreign : ¬Setting.isOf flag setting = true :=
            fun wrong => equal (beq_iff_eq.mp wrong)
          have step := same flag
          rw [List.filter_cons_of_neg foreign, List.filter_append,
            List.filter_cons_of_neg foreign, ← List.filter_append] at step
          exact step
      rw [List.foldl_cons, ih _ alike, List.foldl_append, List.foldl_append, List.foldl_cons,
        foldl_enter draft different]

theorem complete_foldl (draft : Draft) (settings : List Setting) :
    (settings.foldl enter draft).complete = settings.foldl adopt draft.complete := by
  induction settings generalizing draft with
  | nil => rfl
  | cons setting rest ih =>
      rw [List.foldl_cons, List.foldl_cons, ← complete_enter]
      exact ih _

end Draft

/-! ### The settings of an invocation -/

/-- The settings that one option is given for. -/
def settingsOf (options : Options) : Flag → List Setting
  | .bootstrap => (options.bootstrap.map .bootstrap).toList
  | .image => (options.image.map .image).toList
  | .stage => (options.stage.map .stage).toList
  | .interactive => if options.interactive then [.interactive true] else []
  | .evaluate => options.forms.map .evaluate
  | .template => [.template options.template]
  | .runtime => [.runtime options.runtime]
  | .jobs => [.jobs options.jobs]
  | .timeout => (options.timeout.map .timeout).toList
  | .failOnWarnings => if options.failOnWarnings then [.failOnWarnings true] else []
  | .root => (options.root.map .root).toList
  | .host => (options.host.map .host).toList
  | .node => (options.node.map .node).toList
  | .launcher => (options.launcher.map .launcher).toList
  | .json => if options.json then [.json] else []
  | .verbose => List.replicate options.verbosity .verbose
  | .help | .version => []

def settings (options : Options) : List Setting :=
  Flag.all.flatMap options.settingsOf

/-- Options that the words of a command line can have. -/
structure IsSpellable (options : Options) : Prop where
  bootstrap : ∀ path, options.bootstrap = some (some path) → path.bytes ≠ []
  image : ∀ path, options.image = some path → path.bytes ≠ []
  stage : ∀ number, options.stage = some number → number < 4294967296
  jobs : options.jobs < 18446744073709551616
  timeout : ∀ seconds, options.timeout = some seconds → seconds < 18446744073709551616
  root : ∀ path, options.root = some path → path.bytes ≠ []
  host : ∀ path, options.host = some path → path.bytes ≠ []
  node : ∀ path, options.node = some path → path.bytes ≠ []
  launcher : ∀ path, options.launcher = some path → path.bytes ≠ []
  verbosity : options.verbosity ≤ 255
  files : ∀ path ∈ options.files, path.bytes ≠ []

section Settings

variable {options : Options} {flag : Flag} {setting : Setting}

theorem mem_map_toList {Item : Type} {item? : Option Item} {make : Item → Setting}
    (member : setting ∈ (item?.map make).toList) :
    ∃ item, item? = some item ∧ setting = make item := by
  cases item? with
  | none => cases member
  | some item => exact ⟨item, rfl, List.mem_singleton.mp member⟩

theorem mem_if {wanted : Bool} {only : Setting}
    (member : setting ∈ if wanted then [only] else []) : setting = only := by
  cases wanted with
  | false => cases member
  | true => exact List.mem_singleton.mp member

theorem flag_of_mem (member : setting ∈ options.settingsOf flag) : setting.flag = flag := by
  cases flag
  case help | version => cases member
  case interactive | failOnWarnings | json =>
    rw [mem_if member]
    rfl
  case template | runtime | jobs =>
    rw [List.mem_singleton.mp member]
    rfl
  case verbose =>
    rw [List.eq_of_mem_replicate member]
    rfl
  case evaluate =>
    obtain ⟨form, _, rfl⟩ := List.mem_map.mp member
    rfl
  all_goals
    obtain ⟨item, _, rfl⟩ := mem_map_toList member
    rfl

theorem IsSpellable.of_mem (spellable : options.IsSpellable)
    (member : setting ∈ options.settings) : setting.IsSpellable := by
  obtain ⟨flag, _, own⟩ := List.mem_flatMap.mp member
  cases flag
  case help | version => cases own
  case interactive | failOnWarnings | json =>
    rw [mem_if own]
    trivial
  case template | runtime =>
    rw [List.mem_singleton.mp own]
    trivial
  case jobs =>
    rw [List.mem_singleton.mp own]
    exact spellable.jobs
  case verbose =>
    rw [List.eq_of_mem_replicate own]
    trivial
  case evaluate =>
    obtain ⟨form, _, rfl⟩ := List.mem_map.mp own
    trivial
  all_goals obtain ⟨item, known, rfl⟩ := mem_map_toList own
  case bootstrap =>
    intro path same
    exact spellable.bootstrap path (same ▸ known)
  case image => exact spellable.image item known
  case stage => exact spellable.stage item known
  case timeout => exact spellable.timeout item known
  case root => exact spellable.root item known
  case host => exact spellable.host item known
  case node => exact spellable.node item known
  case launcher => exact spellable.launcher item known

theorem filter_settingsOf (options : Options) (flag : Flag) (flags : List Flag) :
    (flags.flatMap options.settingsOf).filter (Setting.isOf flag) =
      (flags.filter (· == flag)).flatMap options.settingsOf := by
  induction flags with
  | nil => rfl
  | cons first rest ih =>
      rw [List.flatMap_cons, List.filter_append, ih]
      by_cases same : first = flag
      · have own : ∀ setting ∈ options.settingsOf first, Setting.isOf flag setting = true :=
          fun _ member => beq_iff_eq.mpr ((flag_of_mem member).trans same)
        rw [List.filter_eq_self.mpr own, List.filter_cons, if_pos (beq_iff_eq.mpr same),
          List.flatMap_cons]
      · have foreign : ∀ setting ∈ options.settingsOf first, ¬Setting.isOf flag setting = true :=
          fun _ member wrong => same ((flag_of_mem member).symm.trans (beq_iff_eq.mp wrong))
        rw [List.filter_eq_nil_iff.mpr foreign, List.filter_cons,
          if_neg (fun wrong => same (beq_iff_eq.mp wrong)), List.nil_append]

theorem filter_settings (options : Options) (flag : Flag) :
    options.settings.filter (Setting.isOf flag) = options.settingsOf flag := by
  have once : Flag.all.filter (· == flag) = [flag] := by
    cases flag <;> rfl
  unfold settings
  rw [filter_settingsOf, once, List.flatMap_singleton]

theorem map_toList_eq_replicate {Item : Type} (item? : Option Item) (make : Item → Setting) :
    ∃ count setting, (item?.map make).toList = List.replicate count setting ∧ count ≤ 1 := by
  cases item? with
  | none => exact ⟨0, .json, rfl, Nat.zero_le 1⟩
  | some item => exact ⟨1, make item, rfl, Nat.le_refl 1⟩

theorem if_eq_replicate (wanted : Bool) (only : Setting) :
    ∃ count setting, (if wanted then [only] else []) = List.replicate count setting ∧ count ≤ 1 := by
  cases wanted with
  | false => exact ⟨0, only, rfl, Nat.zero_le 1⟩
  | true => exact ⟨1, only, rfl, Nat.le_refl 1⟩

theorem settingsOf_single (options : Options) {flag : Flag} (single : flag.isRepeatable = false) :
    ∃ count setting, options.settingsOf flag = List.replicate count setting ∧ count ≤ 1 := by
  cases flag
  case evaluate | verbose => cases single
  case help | version => exact ⟨0, .json, rfl, Nat.zero_le 1⟩
  case template => exact ⟨1, .template options.template, rfl, Nat.le_refl 1⟩
  case runtime => exact ⟨1, .runtime options.runtime, rfl, Nat.le_refl 1⟩
  case jobs => exact ⟨1, .jobs options.jobs, rfl, Nat.le_refl 1⟩
  case interactive | failOnWarnings | json => exact if_eq_replicate _ _
  all_goals exact map_toList_eq_replicate _ _

theorem settingsOf_uniform (options : Options) {flag : Flag} (other : flag ≠ .evaluate) :
    ∃ count setting, options.settingsOf flag = List.replicate count setting := by
  cases repeatable : flag.isRepeatable with
  | false =>
      obtain ⟨count, setting, same, _⟩ := options.settingsOf_single repeatable
      exact ⟨count, setting, same⟩
  | true =>
      cases flag
      case evaluate => exact absurd rfl other
      case verbose => exact ⟨options.verbosity, .verbose, rfl⟩
      all_goals cases repeatable

theorem settings_apart (options : Options) : options.settings.Pairwise Draft.Apart := by
  refine List.pairwise_flatMap.mpr ⟨?_, ?_⟩
  · intro flag _
    cases repeatable : flag.isRepeatable with
    | true =>
        refine List.pairwise_of_forall_mem_list ?_
        intro setting member other _
        exact Or.inr ((flag_of_mem member).symm ▸ repeatable)
    | false =>
        obtain ⟨count, setting, same, few⟩ := options.settingsOf_single repeatable
        rw [same]
        exact List.pairwise_replicate.mpr (Or.inl few)
  · refine Flag.nodup_all.imp ?_
    intro first second different setting member other behind
    refine Or.inl ?_
    rw [flag_of_mem member, flag_of_mem behind]
    exact different

theorem apart_symm {first second : Setting} (apart : Draft.Apart first second) :
    Draft.Apart second first := by
  by_cases same : first.flag = second.flag
  · exact Or.inr (same ▸ apart.resolve_left (not_not_intro same))
  · exact Or.inl (Ne.symm same)

theorem filter_ordering {ordering : List Setting} (permuted : ordering.Perm options.settings)
    (forms : ordering.filter (Setting.isOf .evaluate) =
      options.settings.filter (Setting.isOf .evaluate)) (flag : Flag) :
    ordering.filter (Setting.isOf flag) = options.settings.filter (Setting.isOf flag) := by
  by_cases form : flag = .evaluate
  · rw [form]
    exact forms
  · have among := permuted.filter (Setting.isOf flag)
    obtain ⟨count, setting, same⟩ := options.settingsOf_uniform form
    rw [filter_settings, same] at among ⊢
    exact List.perm_replicate.mp among

end Settings

def raise (verbosity : Nat) : Nat :=
  min (verbosity + 1) Draft.verbosityLimit

def copy (options base : Options) : Flag → Options
  | .bootstrap => { base with bootstrap := options.bootstrap.or base.bootstrap }
  | .image => { base with image := options.image.or base.image }
  | .stage => { base with stage := options.stage.or base.stage }
  | .interactive => { base with interactive := options.interactive || base.interactive }
  | .evaluate => { base with forms := base.forms ++ options.forms }
  | .template => { base with template := options.template }
  | .runtime => { base with runtime := options.runtime }
  | .jobs => { base with jobs := options.jobs }
  | .timeout => { base with timeout := options.timeout.or base.timeout }
  | .failOnWarnings => { base with failOnWarnings := options.failOnWarnings || base.failOnWarnings }
  | .root => { base with root := options.root.or base.root }
  | .host => { base with host := options.host.or base.host }
  | .node => { base with node := options.node.or base.node }
  | .launcher => { base with launcher := options.launcher.or base.launcher }
  | .json => { base with json := options.json || base.json }
  | .verbose => { base with verbosity := raise^[options.verbosity] base.verbosity }
  | .help | .version => base

theorem foldl_verbose (base : Options) (count : Nat) :
    (List.replicate count Setting.verbose).foldl adopt base =
      { base with verbosity := raise^[count] base.verbosity } := by
  induction count generalizing base with
  | zero => rfl
  | succ count ih =>
      rw [List.replicate_succ, List.foldl_cons, ih, Function.iterate_succ_apply]
      rfl

theorem foldl_forms (base : Options) (forms : List String) :
    (forms.map Setting.evaluate).foldl adopt base = { base with forms := base.forms ++ forms } := by
  induction forms generalizing base with
  | nil =>
      rw [List.append_nil]
      rfl
  | cons form rest ih =>
      rw [List.map_cons, List.foldl_cons, ih]
      simp only [adopt, List.append_assoc, List.singleton_append]

theorem foldl_settingsOf (options base : Options) (flag : Flag) :
    (options.settingsOf flag).foldl adopt base = options.copy base flag := by
  cases flag <;> simp only [settingsOf, copy]
  case bootstrap => cases options.bootstrap <;> rfl
  case image => cases options.image <;> rfl
  case stage => cases options.stage <;> rfl
  case interactive => cases options.interactive <;> rfl
  case evaluate => exact foldl_forms base options.forms
  case timeout => cases options.timeout <;> rfl
  case failOnWarnings => cases options.failOnWarnings <;> rfl
  case root => cases options.root <;> rfl
  case host => cases options.host <;> rfl
  case node => cases options.node <;> rfl
  case launcher => cases options.launcher <;> rfl
  case json => cases options.json <;> rfl
  case verbose => exact foldl_verbose base options.verbosity
  all_goals rfl

theorem foldl_flatMap (options base : Options) (flags : List Flag) :
    (flags.flatMap options.settingsOf).foldl adopt base = flags.foldl options.copy base := by
  induction flags generalizing base with
  | nil => rfl
  | cons flag rest ih =>
      rw [List.flatMap_cons, List.foldl_append, foldl_settingsOf, ih]
      rfl

theorem iterate_raise {count : Nat} (few : count ≤ Draft.verbosityLimit) :
    raise^[count] 0 = count := by
  induction count with
  | zero => rfl
  | succ count ih =>
      rw [Function.iterate_succ_apply', ih (Nat.le_of_succ_le few)]
      exact Nat.min_eq_left few

theorem foldl_settings (options : Options) (few : options.verbosity ≤ Draft.verbosityLimit) :
    options.settings.foldl adopt {} = { options with files := [] } := by
  unfold settings
  rw [foldl_flatMap]
  simp only [Flag.all, List.foldl_cons, List.foldl_nil, copy, Option.or_none, Bool.or_false,
    List.nil_append, iterate_raise few]

/-- The words of an invocation are read back as its settings, whatever is in them and in whatever
order its options come, if only the forms are in theirs. -/
theorem parse_words {environment : Environment} (unset : environment.IsUnset) (options : Options)
    (spellable : options.IsSpellable) {ordering : List Setting}
    (permuted : ordering.Perm options.settings)
    (forms : ordering.filter (Setting.isOf .evaluate) =
      options.settings.filter (Setting.isOf .evaluate)) :
    parse environment
        (ordering.map (fun setting => setting.token.word) ++
          [dash, dash] :: options.files.map Path.bytes) =
      .ok options := by
  have fitting : ∀ token ∈ ordering.map Setting.token, token.IsFitting := by
    intro token member
    obtain ⟨setting, _, rfl⟩ := List.mem_map.mp member
    exact setting.token_fitting
  have asked : acts (ordering.map (fun setting => setting.token.word) ++
      [dash, dash] :: options.files.map Path.bytes) =
      ordering.map (fun setting => setting.token.act) ++
        (options.files.map Path.bytes).map .file := by
    have tokens := acts_tokens (ordering.map Setting.token) fitting (options.files.map Path.bytes)
    rw [List.map_map, List.map_map] at tokens
    exact tokens
  have given : Draft.performAll {} (ordering.map fun setting => setting.token.act) =
      .ok (ordering.foldl Draft.enter {}) := by
    apply Draft.performAll_settings
    · intro setting member
      exact spellable.of_mem (permuted.mem_iff.mp member)
    · exact (permuted.pairwise_iff apart_symm).mpr options.settings_apart
    · intro setting _
      cases setting <;> rfl
  have collected : (ordering.foldl Draft.enter {}).complete = { options with files := [] } := by
    rw [Draft.foldl_enter_congr {} (filter_ordering permuted forms), Draft.complete_foldl]
    exact foldl_settings options spellable.verbosity
  rw [parse_unset unset, asked, Draft.performAll_append, given]
  change (Draft.performAll _ ((options.files.map Path.bytes).map .file)).map Draft.complete = _
  rw [Draft.performAll_files, Draft.addFiles_bytes _ spellable.files]
  change Except.ok { (ordering.foldl Draft.enter {}).complete with
    files := (ordering.foldl Draft.enter {}).complete.files ++ options.files } = _
  rw [collected]
  rfl

/-- A bootstrap without a source, forms that look like something else, and a file that looks like an
option. -/
def scattered : Options :=
  { bootstrap := some none
    forms := ["-v", ""]
    template := "-"
    jobs := 4
    verbosity := 2
    files := [.ofText "--json"] }

def scatteredOrder : List Setting :=
  [.verbose, .evaluate "-v", .jobs 4, .bootstrap none, .evaluate "", .runtime .node, .verbose,
   .template "-"]

def scatteredWords : List Bytes :=
  ["--verbose", "--evaluate=-v", "--jobs=4", "--bootstrap", "--evaluate=", "--runtime=node",
   "--verbose", "--output-template=-", "--", "--json"].map Bytes.ofText

theorem scattered_words :
    parse [("HOME", Bytes.ofText "/root")] scatteredWords = .ok scattered := by
  have unset : Environment.IsUnset [("HOME", Bytes.ofText "/root")] := by
    intro flag
    cases flag <;> rfl
  have spellable : scattered.IsSpellable := by
    constructor
    case bootstrap | image | stage | timeout | root | host | node | launcher =>
      intro item given
      cases given
    all_goals decide
  have permuted : scatteredOrder.Perm scattered.settings := by decide
  have spelled : scatteredWords =
      scatteredOrder.map (fun setting => setting.token.word) ++
        [dash, dash] :: scattered.files.map Path.bytes := by decide
  rw [spelled]
  exact parse_words unset scattered spellable permuted (by decide)

end CompilerDriver.Options
