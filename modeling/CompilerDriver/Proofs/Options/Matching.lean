import CompilerDriver.Options.Parse

/-!
Two readings of the same words side by side. A relation between drafts that every single option and
file keeps is kept by the whole reading, whatever the words are. Readings may be compared strictly,
so that both fail for the same reason or neither fails. They may also be compared loosely: then the
second may fail alone, but only over drafts that are marked, and a mark stays once it is there.
-/

namespace CompilerDriver.Options

/-- What two readings come to. -/
def Matched {Left Right : Type} (strict : Prop) (marked : Left → Prop)
    (related : Left → Right → Prop) : Except UsageError Left → Except UsageError Right → Prop
  | .ok left, .ok right => related left right
  | .error left, .error right => strict → left = right
  | .ok left, .error _ => marked left
  | .error _, .ok _ => False

section Results

variable {Left Right NextLeft NextRight : Type} {strict : Prop} {marked : Left → Prop}
  {related : Left → Right → Prop} {later : NextLeft → Prop} {next : NextLeft → NextRight → Prop}
  {left : Except UsageError Left} {right : Except UsageError Right}

theorem Matched.bind (matched : Matched strict marked related left right)
    {after : Left → Except UsageError NextLeft} {behind : Right → Except UsageError NextRight}
    (keeps : ∀ value other, related value other →
      Matched strict later next (after value) (behind other))
    (lasts : ∀ value, marked value → ∀ error, Matched strict later next (after value) (.error error)) :
    Matched strict later next (left.bind after) (right.bind behind) := by
  cases left with
  | ok value =>
      cases right with
      | ok other => exact keeps value other matched
      | error error => exact lasts value matched error
  | error error =>
      cases right with
      | ok other => exact absurd matched not_false
      | error other => exact matched

theorem Matched.map (matched : Matched strict marked related left right) {after : Left → NextLeft}
    {behind : Right → NextRight}
    (keeps : ∀ value other, related value other → next (after value) (behind other))
    (lasts : ∀ value, marked value → later (after value)) :
    Matched strict later next (left.map after) (right.map behind) := by
  cases left with
  | ok value =>
      cases right with
      | ok other => exact keeps value other matched
      | error error => exact lasts value matched
  | error error => cases right <;> exact matched

theorem Matched.accepted {value : Right} (matched : Matched strict marked related left (.ok value)) :
    ∃ other, left = .ok other ∧ related other value := by
  cases left with
  | ok other => exact ⟨other, rfl, matched⟩
  | error error => exact absurd matched not_false

theorem matched_map_iff {amended : Left → Right} :
    Matched True (fun _ => False) (fun value other => other = amended value) left right ↔
      right = left.map amended := by
  constructor
  · intro matched
    cases left with
    | ok value =>
        cases right with
        | ok other => exact congrArg Except.ok matched
        | error error => exact absurd matched not_false
    | error error =>
        cases right with
        | ok other => exact absurd matched not_false
        | error other => exact congrArg Except.error (matched trivial).symm
  · rintro rfl
    cases left with
    | ok value => exact rfl
    | error error => exact fun _ => rfl

end Results

theorem Draft.addFiles_cons (draft : Draft) (raw : Bytes) (rest : List Bytes) :
    draft.addFiles (raw :: rest) = (draft.addFile raw).bind fun next => next.addFiles rest := by
  rw [Draft.addFiles]
  cases draft.addFile raw <;> rfl

theorem Draft.fillAll_cons (environment : Environment) (draft : Draft) (flag : Flag)
    (rest : List Flag) :
    draft.fillAll environment (flag :: rest) =
      (draft.fill environment flag).bind fun next => next.fillAll environment rest := by
  rw [Draft.fillAll]
  cases draft.fill environment flag <;> rfl

namespace Reader

variable (reader : Reader)

theorem take_eq (flag : Flag) (value : Option Bytes) :
    reader.take flag value =
      reader.settle.bind fun draft => (draft.accept flag value).map fun next => { draft := next } := by
  unfold take
  cases reader.settle <;> rfl

theorem cluster_cons (byte : UInt8) (rest : Bytes) :
    reader.cluster (byte :: rest) =
      match Flag.ofShort? byte with
      | none => .error .unknownArgument
      | some flag =>
          match flag.arity, attached rest with
          | .none, _ => (reader.take flag none).bind fun next => next.cluster rest
          | _, some raw => reader.take flag (some raw)
          | _, none => reader.await flag := by
  rw [cluster]
  cases Flag.ofShort? byte with
  | none => rfl
  | some flag =>
      simp only
      cases flag.arity with
      | none => cases reader.take flag none <;> rfl
      | optional => cases attached rest <;> rfl
      | one => cases attached rest <;> rfl

theorem trailing_cons (word : Bytes) (rest : List Bytes) :
    reader.trailing (word :: rest) = (reader.file word).bind fun next => next.trailing rest := by
  rw [trailing]
  cases reader.file word <;> rfl

theorem words_cons (word : Bytes) (rest : List Bytes) :
    reader.words (word :: rest) =
      if word = [dash, dash] then reader.trailing rest
      else (reader.word word).bind fun next => next.words rest := by
  rw [words]
  split
  · rfl
  · cases reader.word word <;> rfl

end Reader

/-! ### Drafts and readers -/

/-- A mark that one more option or file does not take away. -/
structure Lasting (marked : Draft → Prop) : Prop where
  accept : ∀ {draft next : Draft} (flag : Flag) (value : Option Bytes), marked draft →
    draft.accept flag value = .ok next → marked next
  addFile : ∀ {draft next : Draft} (raw : Bytes), marked draft →
    draft.addFile raw = .ok next → marked next
  fill : ∀ {draft next : Draft} (environment : Environment) (flag : Flag), marked draft →
    draft.fill environment flag = .ok next → marked next

/-- A relation between drafts that one more option or file keeps, whether it comes from the words or
from the environment. Marks are for loose comparisons only. -/
structure Kept (strict : Prop) (marked : Draft → Prop) (related : Draft → Draft → Prop) : Prop where
  accept : ∀ {left right : Draft} (flag : Flag) (value : Option Bytes), related left right →
    Matched strict marked related (left.accept flag value) (right.accept flag value)
  addFile : ∀ {left right : Draft} (raw : Bytes), related left right →
    Matched strict marked related (left.addFile raw) (right.addFile raw)
  fill : ∀ {left right : Draft} (environment : Environment) (flag : Flag), related left right →
    Matched strict marked related (left.fill environment flag) (right.fill environment flag)
  lasting : Lasting marked
  loose : ∀ draft, marked draft → ¬strict

/-- Two readers that wait for the same, over related drafts. -/
structure Abreast (related : Draft → Draft → Prop) (left right : Reader) : Prop where
  draft : related left.draft right.draft
  pending : left.pending = right.pending

def Reader.IsMarked (marked : Draft → Prop) (reader : Reader) : Prop :=
  marked reader.draft

def Steady (marked : Draft → Prop) (left right : Draft) : Prop :=
  right = left ∧ marked left

theorem Lasting.none : Lasting fun _ => False :=
  ⟨fun _ _ never _ => never, fun _ never _ => never, fun _ _ never _ => never⟩

theorem matched_steady {marked : Draft → Prop} {result : Except UsageError Draft}
    (lasts : ∀ next, result = .ok next → marked next) :
    Matched True (fun _ => False) (Steady marked) result result := by
  cases result with
  | ok next => exact ⟨rfl, lasts next rfl⟩
  | error error => exact fun _ => rfl

section Readings

variable {strict : Prop} {marked : Draft → Prop} {related : Draft → Draft → Prop}
  {left right : Reader}

/-- A mark stays during a reading because the reading is abreast of itself. -/
theorem Lasting.kept (lasting : Lasting marked) : Kept True (fun _ => False) (Steady marked) where
  accept flag value := by
    rintro ⟨rfl, mark⟩
    exact matched_steady fun next => lasting.accept flag value mark
  addFile raw := by
    rintro ⟨rfl, mark⟩
    exact matched_steady fun next => lasting.addFile raw mark
  fill environment flag := by
    rintro ⟨rfl, mark⟩
    exact matched_steady fun next => lasting.fill environment flag mark
  lasting := Lasting.none
  loose := fun _ never => never.elim

theorem steady_of_marked {reader : Reader} (mark : marked reader.draft) :
    Abreast (Steady marked) reader reader :=
  ⟨⟨rfl, mark⟩, rfl⟩

theorem Kept.spare_draft (kept : Kept strict marked related) {result : Except UsageError Draft}
    {draft : Draft} (mark : marked draft)
    (steady : Matched True (fun _ => False) (Steady marked) result result) (error : UsageError) :
    Matched strict marked related result (.error error) := by
  cases result with
  | ok next => exact steady.2
  | error other => exact fun holds => absurd holds (kept.loose draft mark)

theorem Kept.spare (kept : Kept strict marked related) {result : Except UsageError Reader}
    {draft : Draft} (mark : marked draft)
    (steady : Matched True (Reader.IsMarked fun _ => False) (Abreast (Steady marked)) result result)
    (error : UsageError) :
    Matched strict (Reader.IsMarked marked) (Abreast related) result (.error error) := by
  cases result with
  | ok next => exact steady.draft.2
  | error other => exact fun holds => absurd holds (kept.loose draft mark)

theorem Kept.addFiles (words : List Bytes) {strict : Prop} {marked : Draft → Prop}
    {related : Draft → Draft → Prop} {left right : Draft} (kept : Kept strict marked related)
    (drafts : related left right) :
    Matched strict marked related (left.addFiles words) (right.addFiles words) := by
  induction words generalizing strict marked related left right with
  | nil => exact drafts
  | cons raw rest ih =>
      rw [Draft.addFiles_cons, Draft.addFiles_cons]
      refine (kept.addFile raw drafts).bind (fun _ _ next => ih kept next) ?_
      exact fun _ mark => kept.spare_draft mark (ih kept.lasting.kept ⟨rfl, mark⟩)

theorem Abreast.settle (abreast : Abreast related left right) (kept : Kept strict marked related) :
    Matched strict marked related left.settle right.settle := by
  unfold Reader.settle
  rw [← abreast.pending]
  cases left.pending with
  | nothing => exact abreast.draft
  | waiting flag => exact kept.accept flag none abreast.draft
  | holding flag value => exact kept.accept flag (some value) abreast.draft
  | files words => exact kept.addFiles words abreast.draft

theorem Abreast.resume (abreast : Abreast related left right) (kept : Kept strict marked related)
    (pending : Pending) :
    Matched strict (Reader.IsMarked marked) (Abreast related)
      (left.settle.map fun draft => { draft := draft, pending := pending })
      (right.settle.map fun draft => { draft := draft, pending := pending }) :=
  (abreast.settle kept).map (fun _ _ drafts => ⟨drafts, rfl⟩) fun _ mark => mark

theorem Abreast.take (abreast : Abreast related left right) (kept : Kept strict marked related)
    (flag : Flag) (value : Option Bytes) :
    Matched strict (Reader.IsMarked marked) (Abreast related) (left.take flag value)
      (right.take flag value) := by
  have taken : ∀ {strict : Prop} {marked : Draft → Prop} {related : Draft → Draft → Prop}
      {left right : Draft}, Kept strict marked related → related left right →
      Matched strict (Reader.IsMarked marked) (Abreast related)
        ((left.accept flag value).map fun next => { draft := next })
        ((right.accept flag value).map fun next => { draft := next }) :=
    fun kept drafts =>
      (kept.accept flag value drafts).map (fun _ _ next => ⟨next, rfl⟩) fun _ mark => mark
  rw [Reader.take_eq, Reader.take_eq]
  refine (abreast.settle kept).bind (fun _ _ drafts => taken kept drafts) ?_
  exact fun _ mark => kept.spare mark (taken kept.lasting.kept ⟨rfl, mark⟩)

theorem Abreast.await (abreast : Abreast related left right) (kept : Kept strict marked related)
    (flag : Flag) :
    Matched strict (Reader.IsMarked marked) (Abreast related) (left.await flag)
      (right.await flag) :=
  abreast.resume kept (.waiting flag)

theorem Abreast.file (abreast : Abreast related left right) (kept : Kept strict marked related)
    (word : Bytes) :
    Matched strict (Reader.IsMarked marked) (Abreast related) (left.file word)
      (right.file word) := by
  have joins := abreast.resume kept (.files [word])
  unfold Reader.file
  rw [← abreast.pending]
  cases left.pending with
  | nothing => exact joins
  | waiting flag => exact joins
  | holding flag value => exact joins
  | files words => exact ⟨abreast.draft, rfl⟩

theorem Abreast.plain (abreast : Abreast related left right) (kept : Kept strict marked related)
    (word : Bytes) :
    Matched strict (Reader.IsMarked marked) (Abreast related) (left.plain word)
      (right.plain word) := by
  have joins := abreast.file kept word
  unfold Reader.plain
  rw [← abreast.pending]
  cases left.pending with
  | nothing => exact joins
  | waiting flag => exact ⟨abreast.draft, rfl⟩
  | holding flag value => exact joins
  | files words => exact joins

theorem Abreast.long (abreast : Abreast related left right) (kept : Kept strict marked related)
    (word : Bytes) :
    Matched strict (Reader.IsMarked marked) (Abreast related) (left.long word)
      (right.long word) := by
  unfold Reader.long
  generalize Reader.splitValue word = parts
  obtain ⟨name, value⟩ := parts
  simp only
  cases Flag.ofLong? name with
  | none => exact fun _ => rfl
  | some flag =>
      simp only
      cases flag.arity with
      | none =>
          cases value with
          | none => exact abreast.take kept flag none
          | some raw => exact fun _ => rfl
      | optional =>
          cases value with
          | none => exact abreast.await kept flag
          | some raw => exact abreast.take kept flag (some raw)
      | one =>
          cases value with
          | none => exact abreast.await kept flag
          | some raw => exact abreast.take kept flag (some raw)

theorem Abreast.cluster (word : Bytes) {strict : Prop} {marked : Draft → Prop}
    {related : Draft → Draft → Prop} {left right : Reader} (abreast : Abreast related left right)
    (kept : Kept strict marked related) :
    Matched strict (Reader.IsMarked marked) (Abreast related) (left.cluster word)
      (right.cluster word) := by
  induction word generalizing strict marked related left right with
  | nil => exact abreast
  | cons byte rest ih =>
      rw [Reader.cluster_cons, Reader.cluster_cons]
      cases Flag.ofShort? byte with
      | none => exact fun _ => rfl
      | some flag =>
          simp only
          cases flag.arity with
          | none =>
              refine (abreast.take kept flag none).bind (fun _ _ next => ih next kept) ?_
              exact fun _ mark => kept.spare mark (ih (steady_of_marked mark) kept.lasting.kept)
          | optional =>
              cases Reader.attached rest with
              | none => exact abreast.await kept flag
              | some raw => exact abreast.take kept flag (some raw)
          | one =>
              cases Reader.attached rest with
              | none => exact abreast.await kept flag
              | some raw => exact abreast.take kept flag (some raw)

theorem Abreast.word (abreast : Abreast related left right) (kept : Kept strict marked related)
    (word : Bytes) :
    Matched strict (Reader.IsMarked marked) (Abreast related) (left.word word)
      (right.word word) := by
  unfold Reader.word
  split
  · split
    · split
      · exact abreast.long kept _
      · exact abreast.cluster _ kept
    · exact abreast.plain kept _
  · exact abreast.plain kept _

theorem Abreast.trailing (words : List Bytes) {strict : Prop} {marked : Draft → Prop}
    {related : Draft → Draft → Prop} {left right : Reader} (abreast : Abreast related left right)
    (kept : Kept strict marked related) :
    Matched strict (Reader.IsMarked marked) (Abreast related) (left.trailing words)
      (right.trailing words) := by
  induction words generalizing strict marked related left right with
  | nil => exact abreast
  | cons word rest ih =>
      rw [Reader.trailing_cons, Reader.trailing_cons]
      refine (abreast.file kept word).bind (fun _ _ next => ih next kept) ?_
      exact fun _ mark => kept.spare mark (ih (steady_of_marked mark) kept.lasting.kept)

theorem Abreast.words (words : List Bytes) {strict : Prop} {marked : Draft → Prop}
    {related : Draft → Draft → Prop} {left right : Reader} (abreast : Abreast related left right)
    (kept : Kept strict marked related) :
    Matched strict (Reader.IsMarked marked) (Abreast related) (left.words words)
      (right.words words) := by
  induction words generalizing strict marked related left right with
  | nil => exact abreast
  | cons word rest ih =>
      rw [Reader.words_cons, Reader.words_cons]
      split
      · exact abreast.trailing rest kept
      · refine (abreast.word kept word).bind (fun _ _ next => ih next kept) ?_
        exact fun _ mark => kept.spare mark (ih (steady_of_marked mark) kept.lasting.kept)

theorem Kept.fillAll (environment : Environment) (flags : List Flag) {strict : Prop}
    {marked : Draft → Prop} {related : Draft → Draft → Prop} {left right : Draft}
    (kept : Kept strict marked related) (drafts : related left right) :
    Matched strict marked related (left.fillAll environment flags)
      (right.fillAll environment flags) := by
  induction flags generalizing strict marked related left right with
  | nil => exact drafts
  | cons flag rest ih =>
      rw [Draft.fillAll_cons, Draft.fillAll_cons]
      refine (kept.fill environment flag drafts).bind (fun _ _ next => ih kept next) ?_
      exact fun _ mark => kept.spare_draft mark (ih kept.lasting.kept ⟨rfl, mark⟩)

end Readings

def Reader.conclude (environment : Environment) (arguments : List Bytes) (reader : Reader) :
    Except UsageError Draft :=
  (reader.words arguments).bind fun read =>
    read.settle.bind fun draft => draft.fillAll environment Flag.all

theorem parse_eq_conclude (environment : Environment) (arguments : List Bytes) :
    parse environment arguments =
      (Reader.conclude environment arguments {}).map Draft.complete := by
  unfold parse draft Reader.conclude
  cases Reader.words {} arguments with
  | error error => rfl
  | ok reader =>
      simp only [Except.bind]
      cases reader.settle <;> rfl

section Lines

variable {strict : Prop} {marked : Draft → Prop} {related : Draft → Draft → Prop}
  {left right : Reader}

theorem Abreast.finish (abreast : Abreast related left right) (kept : Kept strict marked related)
    (environment : Environment) :
    Matched strict marked related
      (left.settle.bind fun draft => draft.fillAll environment Flag.all)
      (right.settle.bind fun draft => draft.fillAll environment Flag.all) := by
  refine (abreast.settle kept).bind (fun _ _ drafts => kept.fillAll environment _ drafts) ?_
  exact fun _ mark =>
    kept.spare_draft mark (kept.lasting.kept.fillAll environment _ ⟨rfl, mark⟩)

theorem Abreast.conclude (abreast : Abreast related left right) (kept : Kept strict marked related)
    (environment : Environment) (arguments : List Bytes) :
    Matched strict marked related (left.conclude environment arguments)
      (right.conclude environment arguments) := by
  refine (abreast.words arguments kept).bind (fun _ _ next => next.finish kept environment) ?_
  exact fun _ mark =>
    kept.spare_draft mark ((steady_of_marked mark).finish kept.lasting.kept environment)

end Lines

end CompilerDriver.Options
