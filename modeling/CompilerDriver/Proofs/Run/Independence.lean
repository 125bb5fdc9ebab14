import CompilerDriver.Proofs.Run.Launches
import CompilerDriver.Proofs.Template

/-!
Files of a batch do not disturb each other. Their targets share no places but those that the
template spells out before the stem, and there every file only makes directories that the others
need as well. So the tree of a batch is made of the changes that each file makes when it is compiled
alone, whatever the order in which calls end, and every file is reported as it is alone, up to the
error that a file in the way of the shared directories is met with.
-/

namespace CompilerDriver

namespace FileTree

/-- A tree has every change that one of several trees has made to a base, and no other. -/
def Union (base : FileTree) (parts : List FileTree) (tree : FileTree) : Prop :=
  ∀ place,
    (∀ part ∈ parts, part.get? place ≠ base.get? place → tree.get? place = part.get? place) ∧
      ((∀ part ∈ parts, part.get? place = base.get? place) → tree.get? place = base.get? place)

variable {base done tree last : FileTree} {parts : List FileTree}

theorem Union.nil (base : FileTree) : Union base [] base := by
  intro place
  exact ⟨nofun, fun _ => rfl⟩

theorem Union.of_perm {others : List FileTree} (union : Union base parts tree)
    (same : parts.Perm others) : Union base others tree := by
  intro place
  refine ⟨fun part member => (union place).1 part (same.mem_iff.mpr member), ?_⟩
  intro unchanged
  exact (union place).2 fun part member => unchanged part (same.mem_iff.mp member)

theorem Union.add (union : Union base parts tree) (repeats : Repeats base done tree last)
    (agree : ∀ part ∈ parts, ∀ place, part.get? place ≠ base.get? place →
      done.get? place ≠ base.get? place → part.get? place = done.get? place) :
    Union base (parts ++ [done]) last := by
  intro place
  rw [repeats place]
  constructor
  · intro part member changed
    rcases List.mem_append.mp member with earlier | new
    · split
      case isTrue => exact (union place).1 part earlier changed
      case isFalse also => exact (agree part earlier place changed also).symm
    · rw [List.mem_singleton.mp new] at changed ⊢
      rw [if_neg changed]
  · intro unchanged
    rw [if_pos (unchanged done (List.mem_append_right _ List.mem_cons_self))]
    exact (union place).2 fun part member => unchanged part (List.mem_append_left _ member)

theorem Union.unique {other : FileTree} (union : Union base parts tree)
    (second : Union base parts other) (place : Place) : tree.get? place = other.get? place := by
  by_cases unchanged : ∀ part ∈ parts, part.get? place = base.get? place
  · rw [(union place).2 unchanged, (second place).2 unchanged]
  · obtain ⟨part, changed⟩ := not_forall.mp unchanged
    obtain ⟨member, changed⟩ := Classical.not_imp.mp changed
    rw [(union place).1 part member changed, (second place).1 part member changed]

end FileTree

namespace Run

open FileTree

/-- A report that is the same as another, up to the error that a file in the way of a directory is
met with. -/
def AlikeReport (alone report : StepReport) : Prop :=
  report = alone ∨
    ∃ path, alone.outcome = .failed (.write path .alreadyThere) ∧
      report = alone.fail (.write path .notDirectory)

variable {configuration : Configuration} {image file : Path} {target : Target}

theorem close_of_none {answer : Except RunError Completion} {tree : FileTree}
    (nothing : product? target answer
      ((targeted file target).answered configuration.warnings answer).outcome = none) :
    close configuration file target answer tree =
      { report := (targeted file target).answered configuration.warnings answer, tree := tree } := by
  unfold close
  simp only [nothing]

theorem close_of_some {answer : Except RunError Completion} {path : Path} {bytes : Bytes}
    (produced : product? target answer
      ((targeted file target).answered configuration.warnings answer).outcome = some (path, bytes))
    (tree : FileTree) :
    (close configuration file target answer tree).tree = (tree.writeProduct path bytes).2 ∧
      (close configuration file target answer tree).report =
        match (tree.writeProduct path bytes).1 with
        | some cause => ((targeted file target).answered configuration.warnings answer).fail
            (.write path cause)
        | none => (targeted file target).answered configuration.warnings answer := by
  unfold close
  simp only [produced]
  rcases tree.writeProduct path bytes with ⟨_ | cause, next⟩
  · exact ⟨rfl, rfl⟩
  · exact ⟨rfl, rfl⟩

theorem close_tree (configuration : Configuration) (file : Path) (target : Target)
    (answer : Except RunError Completion) (tree : FileTree) :
    (close configuration file target answer tree).tree = tree ∨
      ∃ path bytes, target = .file path ∧
        (close configuration file target answer tree).tree = (tree.writeProduct path bytes).2 := by
  cases produced : product? target answer
      ((targeted file target).answered configuration.warnings answer).outcome with
  | none =>
      rw [close_of_none produced]
      exact Or.inl rfl
  | some product =>
      obtain ⟨path, bytes⟩ := product
      exact Or.inr ⟨path, bytes, (product?_eq_some produced).1, (close_of_some produced tree).1⟩

variable (configuration file target) in
theorem close_sound {tree : FileTree} (sound : tree.Sound)
    (answer : Except RunError Completion) :
    (close configuration file target answer tree).tree.Sound ∧
      (close configuration file target answer tree).tree.start = tree.start := by
  rcases close_tree configuration file target answer tree with same | ⟨path, bytes, _, same⟩
  · rw [same]
    exact ⟨sound, rfl⟩
  · rw [same]
    exact ⟨writeProduct_sound sound path bytes, writeProduct_start sound path bytes⟩

variable (configuration file) in
theorem close_repeats {base tree : FileTree} (baseSound : base.Sound) (sound : tree.Sound)
    (starts : tree.start = base.start)
    (near : ∀ path, target = .file path → Close base tree path)
    (answer : Except RunError Completion) :
    Repeats base (close configuration file target answer base).tree tree
        (close configuration file target answer tree).tree ∧
      AlikeReport (close configuration file target answer base).report
        (close configuration file target answer tree).report ∧
      ((∀ path, target = .file path → ClimbsFirst path.names.dropLast) →
        (close configuration file target answer tree).report =
          (close configuration file target answer base).report) := by
  cases produced : product? target answer
      ((targeted file target).answered configuration.warnings answer).outcome with
  | none =>
      rw [close_of_none produced, close_of_none produced]
      exact ⟨Repeats.refl base tree, Or.inl rfl, fun _ => rfl⟩
  | some product =>
      obtain ⟨path, bytes⟩ := product
      obtain ⟨baseTree, baseReport⟩ := close_of_some produced base
      obtain ⟨ownTree, ownReport⟩ := close_of_some produced tree
      have goal := (product?_eq_some produced).1
      obtain ⟨repeats, alike, same⟩ :=
        writeProduct_repeats baseSound sound starts (near path goal) bytes
      rw [baseTree, ownTree, baseReport, ownReport]
      refine ⟨repeats, ?_, ?_⟩
      · rcases alike with outcome | ⟨taken, met⟩
        · rw [outcome]
          exact Or.inl rfl
        · rw [taken, met]
          exact Or.inr ⟨path, rfl, rfl⟩
      · intro level
        rw [same (level path goal)]

/-! ### Files alone -/

/-- A runner whose answers hang on the command alone and that leaves the tree as it is. -/
structure Steady (runner : Runner) (answer : Command → Except RunError Completion) : Prop where
  answer : ∀ call tree, (runner call tree).answer = answer call.command
  tree : ∀ call tree, (runner call tree).tree = tree

/-- What becomes of a file that is compiled alone on a tree. -/
def solo (configuration : Configuration) (image : Path)
    (answer : Command → Except RunError Completion) (tree : FileTree) (file : Path) :
    StepReport × FileTree :=
  match Template.outputFor configuration.template file with
  | .error error => (refusal file error, tree)
  | .ok target =>
      ((close configuration file target (answer (compileCommand configuration image file)) tree).report,
        (close configuration file target (answer (compileCommand configuration image file)) tree).tree)

variable {runner : Runner} {answer : Command → Except RunError Completion}

variable (configuration image) in
theorem compileAlone_solo (steady : Steady runner answer) (file : Path) (world : World) :
    (compileAlone configuration image runner file world).1 =
        (solo configuration image answer world.tree file).1 ∧
      (compileAlone configuration image runner file world).2.tree =
        (solo configuration image answer world.tree file).2 := by
  unfold compileAlone solo
  cases named : Template.outputFor configuration.template file with
  | error error =>
      rw [beginCompile_of_unnamed named]
      exact ⟨rfl, rfl⟩
  | ok target =>
      rw [beginCompile_of_named named]
      simp only [endCompile_eq, closing]
      have answered : (opened configuration image runner file target world).flight.answer =
          answer (compileCommand configuration image file) := steady.answer _ _
      have kept : (afterOpening configuration image runner file world).tree = world.tree :=
        steady.tree _ _
      rw [answered, kept]
      exact ⟨rfl, rfl⟩

theorem solo_of_named {file : Path} {target : Target}
    (named : Template.outputFor configuration.template file = .ok target) (tree : FileTree) :
    solo configuration image answer tree file =
      ((close configuration file target (answer (compileCommand configuration image file)) tree).report,
        (close configuration file target (answer (compileCommand configuration image file))
          tree).tree) := by
  unfold solo
  rw [named]

theorem solo_of_unnamed {file : Path} {error : TemplateError}
    (unnamed : Template.outputFor configuration.template file = .error error) (tree : FileTree) :
    solo configuration image answer tree file = (refusal file error, tree) := by
  unfold solo
  rw [unnamed]

theorem solo_changes {tree : FileTree} (sound : tree.Sound) {file : Path} {place : Place}
    (changed : (solo configuration image answer tree file).2.get? place ≠ tree.get? place) :
    ∃ path, Template.outputFor configuration.template file = .ok (.file path) ∧
      place ∈ route (tree.origin path) path.names ∧
      (place ∈ route (tree.origin path) path.names.dropLast →
        tree.get? place = none ∧
          (solo configuration image answer tree file).2.get? place = some .directory) := by
  cases named : Template.outputFor configuration.template file with
  | error error =>
      rw [solo_of_unnamed named] at changed
      exact absurd rfl changed
  | ok target =>
      rw [solo_of_named named] at changed ⊢
      rcases close_tree configuration file target
        (answer (compileCommand configuration image file)) tree with same | ⟨path, bytes, goal, same⟩
      · rw [same] at changed
        exact absurd rfl changed
      · rw [same] at changed ⊢
        subst goal
        exact ⟨path, rfl, (writeProduct_get? sound path bytes place).resolve_left changed⟩

def stems (files : List Path) : List String :=
  files.filterMap fun file => (Template.stem file).toOption

/-- Files that a template keeps apart. -/
structure Apart (template : String) (files : List Path) : Prop where
  distinct : (stems files).Nodup
  proper : ∀ name ∈ stems files, name ≠ "." ∧ name ≠ ".."
  flat : ∀ before after, Template.cut? template.toList = some (before, after) →
    Path.up ∉ Template.back after

theorem mem_stems {files : List Path} {file : Path} {name : String} (member : file ∈ files)
    (found : Template.stem file = .ok name) : name ∈ stems files := by
  refine List.mem_filterMap.mpr ⟨file, member, ?_⟩
  rw [found]
  rfl

theorem stems_append (left right : List Path) : stems (left ++ right) = stems left ++ stems right :=
  List.filterMap_append

theorem outputFor_standard {file path : Path} :
    Template.outputFor Template.standardOutput file ≠ .ok (.file path) := by
  intro named
  obtain ⟨name, _, resolved⟩ := Template.outputFor_ok_iff.mp named
  exact (Template.resolve_file_iff_cut?.mp resolved).1 rfl

theorem shared_directory {template : String} {left right : List Path}
    (apart : template = Template.standardOutput ∨ Apart template (left ++ right))
    {file other path otherPath : Path} (member : file ∈ left) (otherMember : other ∈ right)
    (named : Template.outputFor template file = .ok (.file path))
    (otherNamed : Template.outputFor template other = .ok (.file otherPath))
    {tree : FileTree} {place : Place} (inside : place ∈ route (tree.origin path) path.names)
    (otherInside : place ∈ route (tree.origin otherPath) otherPath.names) :
    place ∈ route (tree.origin path) path.names.dropLast ∧
      place ∈ route (tree.origin otherPath) otherPath.names.dropLast := by
  rcases apart with standard | apart
  · rw [standard] at named
    exact absurd named outputFor_standard
  · obtain ⟨before, after, name, placed⟩ := Template.placed_of_outputFor named
    obtain ⟨otherBefore, otherAfter, otherName, otherPlaced⟩ :=
      Template.placed_of_outputFor otherNamed
    have sameCut := placed.cut.symm.trans otherPlaced.cut
    simp only [Option.some.injEq, Prod.mk.injEq] at sameCut
    obtain ⟨rfl, rfl⟩ := sameCut
    have here := mem_stems member placed.stem
    have there := mem_stems otherMember otherPlaced.stem
    have distinct := apart.distinct
    rw [stems_append] at distinct
    have different : name ≠ otherName := (List.nodup_append.mp distinct).2.2 name here otherName there
    have proper := apart.proper name (by rw [stems_append]; exact List.mem_append_left _ here)
    have otherProper :=
      apart.proper otherName (by rw [stems_append]; exact List.mem_append_right _ there)
    have origins : tree.origin otherPath = tree.origin path := by
      unfold FileTree.origin
      rw [placed.isAbsolute proper.1 proper.2, otherPlaced.isAbsolute otherProper.1 otherProper.2]
    have flat := apart.flat before after placed.cut
    rw [origins] at otherInside ⊢
    have common := placed.apart otherPlaced proper otherProper flat different inside otherInside
    exact ⟨placed.lead_dropLast proper.1 proper.2 common,
      otherPlaced.lead_dropLast otherProper.1 otherProper.2 common⟩

/-! ### Batches -/

variable {first : World}

theorem Reached.loyal {batch : Batch} {stays : List Stay} (steady : Steady runner answer)
    (reached : Reached configuration image runner first batch stays) :
    ∀ step, Slot.compiling step ∈ batch.window →
      Template.outputFor configuration.template step.file = .ok step.target ∧
        step.flight.answer = answer (compileCommand configuration image step.file) := by
  induction reached with
  | start =>
      intro step member
      cases member
  | leave before ih =>
      intro step member
      exact ih step (List.mem_cons_of_mem _ member)
  | refuse before unsettled room unnamed ih =>
      intro step member
      rcases List.mem_append.mp member with old | new
      · exact ih step old
      · cases List.mem_singleton.mp new
  | launch before unsettled room named ih =>
      intro step member
      rcases List.mem_append.mp member with old | new
      · exact ih step old
      · cases List.mem_singleton.mp new
        exact ⟨named, steady.answer _ _⟩
  | @land world done front landing back waiting stays before due ih =>
      intro step member
      refine ih step ?_
      rcases List.mem_append.mp member with inFront | inBack
      · exact List.mem_append_left _ inFront
      · rcases List.mem_cons.mp inBack with impossible | later
        · cases impossible
        · exact List.mem_append_right _ (List.mem_cons_of_mem _ later)

def Slot.file? : Slot → Option Path
  | .finished _ => none
  | .compiling step => some step.file

/-- The tree of a batch is made of what the files that have ended make alone. -/
structure Blended (configuration : Configuration) (image : Path)
    (answer : Command → Except RunError Completion) (base : FileTree) (batch : Batch)
    (files ended : List Path) : Prop where
  files : (ended ++ batch.window.filterMap Slot.file?).Perm files
  union : Union base (ended.map fun file => (solo configuration image answer base file).2)
    batch.world.tree
  sound : batch.world.tree.Sound
  start : batch.world.tree.start = base.start

/-- Along the target of a file at work, the tree has at most some more directories than it had when
the batch began. -/
theorem Blended.near {base : FileTree} (sound : base.Sound) {batch : Batch}
    {files ended others : List Path}
    (apart : configuration.template = Template.standardOutput ∨
      Apart configuration.template (ended ++ others))
    (blended : Blended configuration image answer base batch files ended) {file path : Path}
    (member : file ∈ others)
    (named : Template.outputFor configuration.template file = .ok (.file path)) :
    Close base batch.world.tree path := by
  intro place inside
  -- A change that is there already was made by a file that has ended, and only directories of its
  -- target lie along this one.
  by_cases unchanged : ∀ part ∈ ended.map fun file => (solo configuration image answer base file).2,
      part.get? place = base.get? place
  · exact Or.inl ((blended.union place).2 unchanged)
  · refine Or.inr ?_
    obtain ⟨part, changed⟩ := not_forall.mp unchanged
    obtain ⟨made, changed⟩ := Classical.not_imp.mp changed
    obtain ⟨other, otherMember, rfl⟩ := List.mem_map.mp made
    obtain ⟨otherPath, otherNamed, otherInside, directory⟩ := solo_changes sound changed
    obtain ⟨otherAbove, above⟩ :=
      shared_directory apart otherMember member otherNamed named otherInside inside
    obtain ⟨missing, new⟩ := directory otherAbove
    exact ⟨missing, by rw [(blended.union place).1 _ made changed, new], above⟩

/-- What files in different lists change alone, they change alike. -/
theorem solo_agree {base : FileTree} (sound : base.Sound) {left right : List Path}
    (apart : configuration.template = Template.standardOutput ∨
      Apart configuration.template (left ++ right)) {file other : Path}
    (member : file ∈ left) (otherMember : other ∈ right) {place : Place}
    (changed : (solo configuration image answer base file).2.get? place ≠ base.get? place)
    (otherChanged : (solo configuration image answer base other).2.get? place ≠ base.get? place) :
    (solo configuration image answer base file).2.get? place =
      (solo configuration image answer base other).2.get? place := by
  obtain ⟨path, named, inside, directory⟩ := solo_changes sound changed
  obtain ⟨otherPath, otherNamed, otherInside, otherDirectory⟩ := solo_changes sound otherChanged
  obtain ⟨above, otherAbove⟩ :=
    shared_directory apart member otherMember named otherNamed inside otherInside
  rw [(directory above).2, (otherDirectory otherAbove).2]

theorem Apart.of_perm {template : String} {left right : List Path} (apart : Apart template left)
    (same : left.Perm right) : Apart template right := by
  have stemsSame : (stems left).Perm (stems right) := same.filterMap _
  exact ⟨stemsSame.nodup_iff.mp apart.distinct,
    fun name member => apart.proper name (stemsSame.mem_iff.mpr member), apart.flat⟩

theorem Apart.of_left {template : String} {left right : List Path}
    (apart : Apart template (left ++ right)) : Apart template left := by
  have distinct := apart.distinct
  rw [stems_append] at distinct
  refine ⟨(List.nodup_append.mp distinct).1, ?_, apart.flat⟩
  intro name member
  exact apart.proper name (by rw [stems_append]; exact List.mem_append_left _ member)

/-- Files that a template keeps apart, or that all go to standard output. -/
def Undisturbed (configuration : Configuration) : Prop :=
  configuration.template = Template.standardOutput ∨
    Apart configuration.template configuration.inputs

theorem Reached.undisturbed {batch : Batch} {stays : List Stay} {ended : List Path}
    {base : FileTree} (undisturbed : Undisturbed configuration)
    (reached : Reached configuration image runner first batch stays)
    (blended : Blended configuration image answer base batch (stays.map Stay.file) ended) :
    configuration.template = Template.standardOutput ∨
      Apart configuration.template (ended ++ batch.window.filterMap Slot.file?) := by
  refine undisturbed.imp_right fun all => ?_
  rw [← reached.files] at all
  exact all.of_left.of_perm blended.files.symm

theorem Blended.refuse {base : FileTree} {world : World} {done : List StepReport}
    {window : List Slot} {file : Path} {waiting : List Path} {files ended : List Path}
    {error : TemplateError}
    (unnamed : Template.outputFor configuration.template file = .error error)
    (blended : Blended configuration image answer base ⟨world, done, window, file :: waiting⟩ files
      ended) :
    Blended configuration image answer base
      ⟨world, done, window ++ [.finished (refusal file error)], waiting⟩ (files ++ [file])
      (ended ++ [file]) := by
  refine ⟨?_, ?_, blended.sound, blended.start⟩
  · have same : (window ++ [Slot.finished (refusal file error)]).filterMap Slot.file? =
        window.filterMap Slot.file? := by
      rw [List.filterMap_append]
      exact List.append_nil _
    rw [same, List.append_assoc]
    refine (List.Perm.append_left ended List.perm_append_comm).trans ?_
    rw [← List.append_assoc]
    exact blended.files.append_right [file]
  · rw [List.map_append, List.map_singleton, solo_of_unnamed unnamed]
    refine blended.union.add (Repeats.refl base world.tree) ?_
    intro part _ place _ changed
    exact absurd rfl changed

/-- A call that ends: it is the one of its file, and the tree is as its file needs it. -/
theorem Reached.landing {world : World} {done : List StepReport} {front back : List Slot}
    {step : Compiling} {waiting : List Path} {stays : List Stay} {ended : List Path}
    (steady : Steady runner answer) (sound : first.tree.Sound)
    (undisturbed : Undisturbed configuration)
    (before : Reached configuration image runner first
      ⟨world, done, front ++ .compiling step :: back, waiting⟩ stays)
    (blended : Blended configuration image answer first.tree
      ⟨world, done, front ++ .compiling step :: back, waiting⟩ (stays.map Stay.file) ended) :
    (Template.outputFor configuration.template step.file = .ok step.target ∧
        step.flight.answer = answer (compileCommand configuration image step.file)) ∧
      step.file ∈ (front ++ Slot.compiling step :: back).filterMap Slot.file? ∧
      ∀ path, step.target = .file path → Close first.tree world.tree path := by
  have loyal := before.loyal steady step (by simp)
  have working : step.file ∈ (front ++ Slot.compiling step :: back).filterMap Slot.file? :=
    List.mem_filterMap.mpr ⟨.compiling step, by simp, rfl⟩
  refine ⟨loyal, working, ?_⟩
  intro path goal
  exact blended.near sound (before.undisturbed undisturbed blended) working
    (by rw [loyal.1, goal])

theorem Reached.blended {batch : Batch} {stays : List Stay} (steady : Steady runner answer)
    (sound : first.tree.Sound) (undisturbed : Undisturbed configuration)
    (reached : Reached configuration image runner first batch stays) :
    ∃ ended, Blended configuration image answer first.tree batch (stays.map Stay.file) ended := by
  induction reached with
  | start => exact ⟨[], .refl _, Union.nil _, sound, rfl⟩
  | leave before ih =>
      obtain ⟨ended, blended⟩ := ih
      exact ⟨ended, blended.files, blended.union, blended.sound, blended.start⟩
  | @refuse world done window file waiting stays error before unsettled room unnamed ih =>
      obtain ⟨ended, blended⟩ := ih
      rw [List.map_append, List.map_singleton]
      exact ⟨ended ++ [file], blended.refuse unnamed⟩
  | @launch world done window file waiting stays target before unsettled room named ih =>
      obtain ⟨ended, blended⟩ := ih
      have kept : (afterOpening configuration image runner file world).tree = world.tree :=
        steady.tree _ _
      refine ⟨ended, ?_, by rw [kept]; exact blended.union, by rw [kept]; exact blended.sound,
        by rw [kept]; exact blended.start⟩
      rw [List.map_append, List.map_singleton, List.filterMap_append, ← List.append_assoc]
      exact blended.files.append_right [file]
  | @land world done front step back waiting stays before due ih =>
      obtain ⟨ended, blended⟩ := ih
      obtain ⟨⟨named, answered⟩, working, near⟩ := before.landing steady sound undisturbed blended
      have apart := before.undisturbed undisturbed blended
      obtain ⟨repeats, _, _⟩ := close_repeats configuration step.file
        sound blended.sound blended.start near step.flight.answer
      obtain ⟨landedSound, landedStart⟩ :=
        close_sound configuration step.file step.target blended.sound step.flight.answer
      rw [endCompile_eq]
      refine ⟨ended ++ [step.file], ?_, ?_, landedSound, landedStart.trans blended.start⟩
      · refine List.Perm.trans ?_ blended.files
        simp only [List.filterMap_append, List.filterMap_cons, Slot.file?, List.append_assoc,
          List.singleton_append]
        exact List.Perm.append_left _ List.perm_middle.symm
      · -- The new changes meet earlier ones only in directories that both files make alone.
        rw [List.map_append, List.map_singleton, solo_of_named named, ← answered]
        refine blended.union.add repeats ?_
        intro part made place changed also
        obtain ⟨other, otherMember, rfl⟩ := List.mem_map.mp made
        have agree := solo_agree sound apart otherMember working changed
        rw [solo_of_named named, ← answered] at agree
        exact agree also

/-- The template does not climb out of a directory that it has named. -/
def Steps (template : String) : Prop :=
  ∀ before after, Template.cut? template.toList = some (before, after) →
    ClimbsFirst (Template.lead before)

theorem climbsFirst_of_steps {template : String} {files : List Path}
    (apart : template = Template.standardOutput ∨ Apart template files) (steps : Steps template)
    {file path : Path} (member : file ∈ files)
    (named : Template.outputFor template file = .ok (.file path)) :
    ClimbsFirst path.names.dropLast := by
  rcases apart with standard | apart
  · rw [standard] at named
    exact absurd named outputFor_standard
  · obtain ⟨before, after, name, placed⟩ := Template.placed_of_outputFor named
    have proper := apart.proper name (mem_stems member placed.stem)
    exact placed.level proper.1 proper.2 (apart.flat before after placed.cut)
      (steps before after placed.cut)

/-- A finished place reports its file as it is alone. -/
def Fair (configuration : Configuration) (image : Path)
    (answer : Command → Except RunError Completion) (base : FileTree) (file : Path) : Slot → Prop
  | .finished report =>
      AlikeReport (solo configuration image answer base file).1 report ∧
        (Steps configuration.template → report = (solo configuration image answer base file).1)
  | .compiling step => step.file = file

theorem Reached.fair {batch : Batch} {stays : List Stay} (steady : Steady runner answer)
    (sound : first.tree.Sound) (undisturbed : Undisturbed configuration)
    (reached : Reached configuration image runner first batch stays) :
    List.Forall₂ (Fair configuration image answer first.tree) (stays.map Stay.file)
      batch.slots := by
  induction reached with
  | start => exact .nil
  | leave before ih => simpa [Batch.slots] using ih
  | @refuse world done window file waiting stays error before unsettled room unnamed ih =>
      change List.Forall₂ _ _ (done.map _ ++ (window ++ [_]))
      rw [← List.append_assoc, List.map_append]
      refine List.rel_append ih (.cons ?_ .nil)
      have same : refusal file error = (solo configuration image answer first.tree file).1 := by
        rw [solo_of_unnamed unnamed]
      exact ⟨Or.inl same, fun _ => same⟩
  | @launch world done window file waiting stays target before unsettled room named ih =>
      change List.Forall₂ _ _ (done.map _ ++ (window ++ [_]))
      rw [← List.append_assoc, List.map_append]
      exact List.rel_append ih (.cons rfl .nil)
  | @land world done front step back waiting stays before due ih =>
      obtain ⟨ended, blended⟩ := before.blended steady sound undisturbed
      obtain ⟨⟨named, answered⟩, working, near⟩ := before.landing steady sound undisturbed blended
      have apart := before.undisturbed undisturbed blended
      change List.Forall₂ _ _ (done.map _ ++ (front ++ _ :: back)) at ih ⊢
      rw [← List.append_assoc] at ih ⊢
      refine forall₂_replace ih ?_
      intro file same
      change step.file = file at same
      subst same
      obtain ⟨_, alike, exactReport⟩ :=
        close_repeats configuration step.file sound blended.sound blended.start near
          step.flight.answer
      rw [endCompile_eq]
      unfold Fair
      rw [solo_of_named named, ← answered]
      refine ⟨alike, fun steps => exactReport ?_⟩
      intro path goal
      exact climbsFirst_of_steps apart steps (List.mem_append_right _ working) (by rw [named, goal])

theorem compile_solo (imaged : configuration.compilerImage = some image)
    (several : 1 ≤ configuration.jobs) {world : World} (sound : world.tree.Sound)
    (steady : Steady runner answer) (undisturbed : Undisturbed configuration) :
    ∃ reports last,
      compile configuration runner world = (.ok reports, last) ∧
      List.Forall₂ (fun file report => Fair configuration image answer world.tree file
        (.finished report)) configuration.inputs reports ∧
      Union world.tree
        (configuration.inputs.map fun file => (solo configuration image answer world.tree file).2)
        last.tree := by
  obtain ⟨last, reports, waiting, stays, ran, reached, complete⟩ :=
    compile_reached runner imaged world
  have waited : waiting = [] := complete.resolve_right (by omega)
  subst waited
  have files := reached.files
  rw [List.append_nil] at files
  have begun : (batchWorld configuration world).tree = world.tree := rfl
  have fair := reached.fair steady (by rw [begun]; exact sound) undisturbed
  obtain ⟨ended, blended⟩ := reached.blended steady (by rw [begun]; exact sound) undisturbed
  simp only [Batch.slots, List.append_nil, files, begun] at fair
  have order := blended.files
  simp only [List.filterMap_nil, List.append_nil, files] at order
  exact ⟨reports, last, ran, List.forall₂_map_right_iff.mp fair,
    blended.union.of_perm (order.map _)⟩

theorem reports_of_fair {base : FileTree} {files : List Path} {reports : List StepReport}
    (steps : Steps configuration.template)
    (fair : List.Forall₂ (fun file report => Fair configuration image answer base file
      (.finished report)) files reports) :
    reports = files.map fun file => (solo configuration image answer base file).1 := by
  induction fair with
  | nil => rfl
  | cons head _ ih => rw [List.map_cons, ← ih, ← head.2 steps]

/-- Every file of a batch is reported as it is when it is compiled alone on the tree that the batch
began with, and the tree that is left has all changes that files make alone, and no other. Only a
file in the way of the directories that targets share may be reported with another error, and only
when the template climbs out of a directory that it has named. How many jobs there are makes no
difference. -/
theorem compile_independent (configuration : Configuration) (image : Path) (runner : Runner)
    (answer : Command → Except RunError Completion) (world : World)
    (imaged : configuration.compilerImage = some image) (several : 1 ≤ configuration.jobs)
    (sound : world.tree.Sound) (steady : Steady runner answer)
    (undisturbed : Undisturbed configuration) :
    ∃ reports last,
      compile configuration runner world = (.ok reports, last) ∧
      List.Forall₂
        (fun file report =>
          AlikeReport (compileAlone configuration image runner file world).1 report)
        configuration.inputs reports ∧
      (Steps configuration.template →
        reports = configuration.inputs.map fun file =>
          (compileAlone configuration image runner file world).1) ∧
      Union world.tree
        (configuration.inputs.map fun file =>
          (compileAlone configuration image runner file world).2.tree) last.tree ∧
      ∀ jobs, 1 ≤ jobs → ∃ others otherLast,
        compile { configuration with jobs := jobs } runner world = (.ok others, otherLast) ∧
        (Steps configuration.template → others = reports) ∧
        ∀ place, otherLast.tree.get? place = last.tree.get? place := by
  have alone := fun file => compileAlone_solo configuration image steady file world
  obtain ⟨reports, last, ran, fair, union⟩ := compile_solo imaged several sound steady undisturbed
  refine ⟨reports, last, ran, ?_, ?_, ?_, ?_⟩
  · refine fair.imp ?_
    intro file report settled
    rw [(alone file).1]
    exact settled.1
  · intro steps
    rw [reports_of_fair steps fair]
    simp only [(alone _).1]
  · simp only [(alone _).2]
    exact union
  · -- The tree is fixed by what the files do alone, so two batches leave the same one.
    intro jobs someJobs
    have varied : { configuration with jobs := jobs }.compilerImage = some image := imaged
    obtain ⟨others, otherLast, otherRan, otherFair, otherUnion⟩ :=
      compile_solo varied someJobs sound steady undisturbed
    refine ⟨others, otherLast, otherRan, ?_, otherUnion.unique union⟩
    intro steps
    rw [reports_of_fair steps fair]
    have otherSteps : Steps { configuration with jobs := jobs }.template := steps
    exact reports_of_fair otherSteps otherFair

/-- Two files, and a template that climbs out of a directory that may be missing. -/
def climbing : Configuration :=
  { compilerImage := some (.ofText "/img/c.wasm")
    template := "a/../f/x/\x7b\x7d.wasm"
    inputs := [.ofText "one.ss", .ofText "two.ss"]
    toolchain := .standard (.ofText "/") }

/-- A tree with a file where the template needs a directory. -/
def obstructed : FileTree :=
  { entries := [([Bytes.ofText "f"], .file (Bytes.ofText "F") false)] }

def printing : Runner := fun _ tree =>
  { duration := 0, answer := .ok { stdout := Bytes.ofText "M" }, tree := tree }

theorem obstructed_sound : obstructed.Sound := by
  refine ⟨rfl, ?_⟩
  intro place name taken
  cases place with
  | nil => rfl
  | cons first rest =>
      have missing : obstructed.get? (first :: rest ++ [name]) = none := by
        have longer : (first :: rest ++ [name] == [Bytes.ofText "f"]) = false := by
          cases rest <;> simp
        unfold obstructed get?
        rw [List.cons_append, List.isEmpty_cons, if_neg nofun, List.lookup_cons,
          ← List.cons_append, longer]
        rfl
      exact absurd missing taken

theorem printing_steady : Steady printing fun _ => .ok { stdout := Bytes.ofText "M" } :=
  ⟨fun _ _ => rfl, fun _ _ => rfl⟩

theorem climbing_undisturbed : Undisturbed climbing := by
  refine Or.inr ⟨by decide +kernel, by decide +kernel, ?_⟩
  intro before after cut
  have whole : Template.cut? climbing.template.toList =
      some ("a/../f/x/".toList, ".wasm".toList) := by decide +kernel
  rw [whole] at cut
  cases cut
  decide +kernel

/-- Alone, either file finds the name of a directory taken by a file. Together, the second one finds
that a file is no directory, since the first has made the directory that the template climbs out
of. -/
theorem climbing_disturbs :
    climbing.compilerImage = some (.ofText "/img/c.wasm") ∧ 1 ≤ climbing.jobs ∧
      obstructed.Sound ∧ Steady printing (fun _ => .ok { stdout := Bytes.ofText "M" }) ∧
      Undisturbed climbing ∧
      (compile climbing printing { tree := obstructed }).1 ≠
        .ok (climbing.inputs.map fun file =>
          (compileAlone climbing (.ofText "/img/c.wasm") printing file { tree := obstructed }).1) :=
  ⟨rfl, by decide, obstructed_sound, printing_steady, climbing_undisturbed, by decide +kernel⟩

theorem climbing_independent :
    ∃ reports last,
      compile climbing printing { tree := obstructed } = (.ok reports, last) ∧
      List.Forall₂
        (fun file report =>
          AlikeReport
            (compileAlone climbing (.ofText "/img/c.wasm") printing file { tree := obstructed }).1
            report)
        climbing.inputs reports ∧
      Union obstructed
        (climbing.inputs.map fun file =>
          (compileAlone climbing (.ofText "/img/c.wasm") printing file
            { tree := obstructed }).2.tree) last.tree := by
  obtain ⟨reports, last, ran, alike, _, union, _⟩ :=
    compile_independent climbing (.ofText "/img/c.wasm") printing
      (fun _ => .ok { stdout := Bytes.ofText "M" }) { tree := obstructed } rfl (by decide)
      obstructed_sound printing_steady climbing_undisturbed
  exact ⟨reports, last, ran, alike, union⟩

end Run

end CompilerDriver
