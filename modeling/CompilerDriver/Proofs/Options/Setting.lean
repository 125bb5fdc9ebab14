import CompilerDriver.Options.Parse

/-!
What an option of the command line sets. An option and its value are first read as a setting, which
takes no notice of what was given before, and the setting is then entered into the draft. Settings
of different options do not meet in a draft, so they may be entered in any order.
-/

namespace CompilerDriver

def Flag.isRepeatable : Flag → Bool
  | .evaluate | .verbose => true
  | _ => false

theorem Flag.nodup_all : Flag.all.Nodup := by
  decide

namespace Options

inductive Setting where
  | bootstrap (source : Option Path)
  | image (path : Path)
  | stage (number : Nat)
  | interactive (wanted : Bool)
  | evaluate (form : String)
  | template (template : String)
  | runtime (runtime : Runtime)
  | jobs (number : Nat)
  | timeout (seconds : Nat)
  | failOnWarnings (wanted : Bool)
  | root (path : Path)
  | host (path : Path)
  | node (path : Path)
  | launcher (path : Path)
  | json
  | verbose
  deriving Repr, DecidableEq

namespace Setting

def flag : Setting → Flag
  | .bootstrap _ => .bootstrap
  | .image _ => .image
  | .stage _ => .stage
  | .interactive _ => .interactive
  | .evaluate _ => .evaluate
  | .template _ => .template
  | .runtime _ => .runtime
  | .jobs _ => .jobs
  | .timeout _ => .timeout
  | .failOnWarnings _ => .failOnWarnings
  | .root _ => .root
  | .host _ => .host
  | .node _ => .node
  | .launcher _ => .launcher
  | .json => .json
  | .verbose => .verbose

def read : Flag → Option Bytes → Except UsageError Setting
  | .bootstrap, none => .ok (.bootstrap none)
  | .bootstrap, some raw => (Value.path raw).map fun path => .bootstrap (some path)
  | .image, some raw => (Value.path raw).map .image
  | .stage, some raw => (Value.stage raw).map .stage
  | .interactive, none => .ok (.interactive true)
  | .interactive, some raw => (Value.switch raw).map .interactive
  | .evaluate, some raw => (Value.text raw).map .evaluate
  | .template, some raw => (Value.text raw).map .template
  | .runtime, some raw => (Value.runtime raw).map .runtime
  | .jobs, some raw => (Value.count raw).map .jobs
  | .timeout, some raw => (Value.count raw).map .timeout
  | .failOnWarnings, none => .ok (.failOnWarnings true)
  | .failOnWarnings, some raw => (Value.switch raw).map .failOnWarnings
  | .root, some raw => (Value.path raw).map .root
  | .host, some raw => (Value.path raw).map .host
  | .node, some raw => (Value.path raw).map .node
  | .launcher, some raw => (Value.path raw).map .launcher
  | .json, none => .ok .json
  | .verbose, none => .ok .verbose
  | .help, none => .error .helpWanted
  | .version, none => .error .versionWanted
  | .json, some _ | .verbose, some _ | .help, some _ | .version, some _ => .error .needlessValue
  | .image, none | .stage, none | .evaluate, none | .template, none | .runtime, none | .jobs, none
  | .timeout, none | .root, none | .host, none | .node, none | .launcher, none =>
      .error .invalidValue

end Setting

namespace Draft

def enter (draft : Draft) : Setting → Draft
  | .bootstrap source => { draft with bootstrap := some source }
  | .image path => { draft with image := some path }
  | .stage number => { draft with stage := some number }
  | .interactive wanted => { draft with interactive := some wanted }
  | .evaluate form => { draft with forms := draft.forms ++ [form] }
  | .template template => { draft with template := some template }
  | .runtime runtime => { draft with runtime := some runtime }
  | .jobs number => { draft with jobs := some number }
  | .timeout seconds => { draft with timeout := some seconds }
  | .failOnWarnings wanted => { draft with failOnWarnings := some wanted }
  | .root path => { draft with root := some path }
  | .host path => { draft with host := some path }
  | .node path => { draft with node := some path }
  | .launcher path => { draft with launcher := some path }
  | .json => { draft with json := some true }
  | .verbose => { draft with verbosity := min (draft.verbosity + 1) verbosityLimit }

end Draft

/-- What entering a setting comes to once the usual values stand for whatever is absent. -/
def adopt (options : Options) : Setting → Options
  | .bootstrap source => { options with bootstrap := some source }
  | .image path => { options with image := some path }
  | .stage number => { options with stage := some number }
  | .interactive wanted => { options with interactive := wanted }
  | .evaluate form => { options with forms := options.forms ++ [form] }
  | .template template => { options with template := template }
  | .runtime runtime => { options with runtime := runtime }
  | .jobs number => { options with jobs := number }
  | .timeout seconds => { options with timeout := some seconds }
  | .failOnWarnings wanted => { options with failOnWarnings := wanted }
  | .root path => { options with root := some path }
  | .host path => { options with host := some path }
  | .node path => { options with node := some path }
  | .launcher path => { options with launcher := some path }
  | .json => { options with json := true }
  | .verbose => { options with verbosity := min (options.verbosity + 1) Draft.verbosityLimit }

theorem Draft.complete_enter (draft : Draft) (setting : Setting) :
    (draft.enter setting).complete = draft.complete.adopt setting := by
  cases setting <;> rfl

theorem Setting.flag_of_read {flag : Flag} {value : Option Bytes} {setting : Setting}
    (known : Setting.read flag value = .ok setting) : setting.flag = flag := by
  have mapped : ∀ {Value : Type} {result : Except UsageError Value} {make : Value → Setting},
      (∀ read, (make read).flag = flag) → result.map make = .ok setting → setting.flag = flag := by
    intro Value result make kept made
    cases result with
    | error error => cases made
    | ok read =>
        cases made
        exact kept read
  cases value with
  | none => cases flag <;> cases known <;> rfl
  | some raw =>
      cases flag
      case json | verbose | help | version => cases known
      all_goals exact mapped (fun _ => rfl) known

theorem Draft.store_eq_read (draft : Draft) (flag : Flag) (raw : Bytes) :
    draft.store flag raw = (Setting.read flag (some raw)).map draft.enter := by
  cases flag <;> simp only [Draft.store, Setting.read]
  case stage => cases Value.stage raw <;> rfl
  case interactive => cases Value.switch raw <;> rfl
  case evaluate => cases Value.text raw <;> rfl
  case template => cases Value.text raw <;> rfl
  case runtime => cases Value.runtime raw <;> rfl
  case jobs => cases Value.count raw <;> rfl
  case timeout => cases Value.count raw <;> rfl
  case failOnWarnings => cases Value.switch raw <;> rfl
  case json | verbose | help | version => rfl
  all_goals cases Value.path raw <;> rfl

theorem Draft.mark_eq_read (draft : Draft) (flag : Flag) :
    draft.mark flag = (Setting.read flag none).map draft.enter := by
  cases flag <;> rfl

theorem Draft.accept_eq_read (draft : Draft) {flag : Flag} {value : Option Bytes}
    (valued : flag.arity = .one → value ≠ none) :
    draft.accept flag value =
      if draft.holds flag then .error .repeated
      else (Setting.read flag value).map draft.enter := by
  unfold Draft.accept
  rw [if_neg fun short => valued short.1 short.2]
  cases value with
  | none => simp only [Draft.mark_eq_read]
  | some raw => simp only [Draft.store_eq_read]

theorem Draft.accept_of_held {draft : Draft} {flag : Flag} (held : draft.holds flag = true)
    {value : Option Bytes} (valued : flag.arity = .one → value ≠ none) :
    draft.accept flag value = .error .repeated := by
  rw [draft.accept_eq_read valued, if_pos held]

theorem Draft.accept_of_free {draft : Draft} {flag : Flag} (free : draft.holds flag = false)
    {value : Option Bytes} (valued : flag.arity = .one → value ≠ none) :
    draft.accept flag value = (Setting.read flag value).map draft.enter := by
  rw [draft.accept_eq_read valued, free, if_neg Bool.false_ne_true]

theorem Draft.accepted {draft next : Draft} {flag : Flag} {value : Option Bytes}
    (given : draft.accept flag value = .ok next) :
    (flag.arity = .one → value ≠ none) ∧ draft.holds flag = false ∧
      ∃ setting, Setting.read flag value = .ok setting ∧ next = draft.enter setting := by
  have valued : flag.arity = .one → value ≠ none := by
    intro needs missing
    unfold Draft.accept at given
    rw [if_pos ⟨needs, missing⟩] at given
    cases given
  refine ⟨valued, ?_⟩
  cases held : draft.holds flag with
  | true =>
      rw [Draft.accept_of_held held valued] at given
      cases given
  | false =>
      rw [Draft.accept_of_free held valued] at given
      cases known : Setting.read flag value with
      | error error =>
          rw [known] at given
          cases given
      | ok setting =>
          rw [known] at given
          exact ⟨rfl, setting, rfl, (Except.ok.inj given).symm⟩

namespace Draft

theorem holds_enter (draft : Draft) (setting : Setting) (flag : Flag) :
    (draft.enter setting).holds flag =
      (setting.flag == flag && !flag.isRepeatable || draft.holds flag) := by
  cases setting <;> cases flag <;> rfl

theorem holds_enter_of_ne (draft : Draft) {setting : Setting} {flag : Flag}
    (different : setting.flag ≠ flag) : (draft.enter setting).holds flag = draft.holds flag := by
  rw [holds_enter, beq_false_of_ne different]
  rfl

theorem enter_comm (draft : Draft) {setting later : Setting}
    (different : setting.flag ≠ later.flag) :
    (draft.enter setting).enter later = (draft.enter later).enter setting := by
  cases setting <;> cases later
  case bootstrap.bootstrap | image.image | stage.stage | interactive.interactive
      | evaluate.evaluate | template.template | runtime.runtime | jobs.jobs | timeout.timeout
      | failOnWarnings.failOnWarnings | root.root | host.host | node.node | launcher.launcher
      | json.json | verbose.verbose =>
    exact absurd rfl different
  all_goals rfl

theorem enter_enter (draft : Draft) {setting : Setting}
    (single : setting.flag.isRepeatable = false) :
    (draft.enter setting).enter setting = draft.enter setting := by
  cases setting
  case evaluate | verbose => cases single
  all_goals rfl

theorem addFile_enter (draft : Draft) (setting : Setting) (raw : Bytes) :
    (draft.enter setting).addFile raw = (draft.addFile raw).map fun next => next.enter setting := by
  unfold addFile
  cases Value.path raw with
  | error error => rfl
  | ok path => cases setting <;> rfl

theorem holds_addFile {draft next : Draft} {raw : Bytes} (added : draft.addFile raw = .ok next)
    (flag : Flag) : next.holds flag = draft.holds flag := by
  unfold addFile at added
  cases path : Value.path raw with
  | error error =>
      rw [path] at added
      cases added
  | ok path =>
      rw [path] at added
      cases added
      cases flag <;> rfl

end Draft

end Options

end CompilerDriver
