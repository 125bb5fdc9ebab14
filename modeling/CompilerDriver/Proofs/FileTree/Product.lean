import CompilerDriver.Proofs.FileTree.Paving

/-!
Writing a product in two trees. When one of them only has some more directories, among those that
the writing would make anyway, both are changed in the same way. Even the outcome is the same, up to
which of two errors a file in the way of the directories is met with.
-/

namespace CompilerDriver.FileTree

/-- What was changed from a base has been changed in a tree as well, and nothing else. -/
def Repeats (base done tree last : FileTree) : Prop :=
  ∀ place, last.get? place =
    if done.get? place = base.get? place then tree.get? place else done.get? place

variable {base done tree last : FileTree}

theorem Repeats.refl (base tree : FileTree) : Repeats base base tree tree := by
  intro place
  rw [if_pos rfl]

theorem Repeats.trans {middle between : FileTree} (first : Repeats base middle tree between)
    (second : Repeats middle done between last)
    (kept : ∀ place, middle.get? place ≠ base.get? place → done.get? place = middle.get? place) :
    Repeats base done tree last := by
  intro place
  rw [second place]
  by_cases later : done.get? place = middle.get? place
  · rw [if_pos later, first place, later]
  · have earlier : middle.get? place = base.get? place := by
      apply Classical.byContradiction
      intro changed
      exact later (kept place changed)
    rw [if_neg later, if_neg (by rw [← earlier]; exact later)]

theorem Repeats.put {place : Place} (inside : place ≠ []) (same : tree.get? place = base.get? place)
    (node : Node) : Repeats base (base.put place node) tree (tree.put place node) := by
  intro other
  rw [get?_put tree inside, get?_put base inside]
  by_cases here : other = place
  · subst other
    rw [if_pos rfl, if_pos rfl]
    split
    case isTrue unchanged => rw [same, unchanged]
    case isFalse => rfl
  · rw [if_neg here, if_neg here, if_pos rfl]

/-- A place that a tree has as the base has it, or as a directory where the base has nothing. -/
def Kept (base tree : FileTree) (place : Place) : Prop :=
  tree.get? place = base.get? place ∨
    base.get? place = none ∧ tree.get? place = some .directory

theorem Kept.directory {place : Place} (kept : Kept base tree place)
    (here : base.get? place = some .directory) : tree.get? place = some .directory := by
  rcases kept with same | ⟨missing, _⟩
  · rw [same, here]
  · rw [here] at missing
    cases missing

theorem Kept.file {place : Place} (kept : Kept base tree place) {bytes : Bytes}
    {executable : Bool} (here : base.get? place = some (.file bytes executable)) :
    tree.get? place = some (.file bytes executable) := by
  rcases kept with same | ⟨missing, _⟩
  · rw [same, here]
  · rw [here] at missing
    cases missing

theorem Kept.put {place other : Place} (kept : Kept base tree other) (inside : place ≠ [])
    (node : Node) : Kept (base.put place node) (tree.put place node) other := by
  unfold Kept
  rw [get?_put tree inside, get?_put base inside]
  split
  · exact Or.inl rfl
  · exact kept

theorem Kept.put_base {place other : Place} (kept : Kept base tree other) (inside : place ≠ [])
    (there : tree.get? place = some .directory) :
    Kept (base.put place .directory) tree other := by
  unfold Kept
  rw [get?_put base inside]
  by_cases same : other = place
  · subst other
    rw [if_pos rfl]
    exact Or.inl there
  · rw [if_neg same]
    exact kept

theorem Repeats.put_base {place : Place} (inside : place ≠ [])
    (there : tree.get? place = some .directory) :
    Repeats base (base.put place .directory) tree tree := by
  intro other
  rw [get?_put base inside]
  by_cases same : other = place
  · subst other
    rw [if_pos rfl, there, ite_self]
  · rw [if_neg same, if_pos rfl]

theorem pave_repeats {place : Place} {segments : List Bytes}
    (kept : ∀ other ∈ route place segments, Kept base tree other) :
    (tree.pave place segments).1 = (base.pave place segments).1 ∧
      Repeats base (base.pave place segments).2 tree (tree.pave place segments).2 := by
  induction segments generalizing base tree place with
  | nil => exact ⟨rfl, Repeats.refl base tree⟩
  | cons segment rest ih =>
      have later : ∀ other ∈ route (turn place segment) rest, Kept base tree other :=
        fun other member => kept other (List.mem_cons_of_mem _ member)
      have next := later _ (start_mem_route _ _)
      rcases pave_cases base place segment with long | ⟨short, here | ⟨bytes, executable, here⟩ | here⟩
      · rw [pave_tooLong long, pave_tooLong long]
        exact ⟨rfl, Repeats.refl base tree⟩
      · rw [pave_directory short here, pave_directory short (next.directory here)]
        exact ih later
      · rw [pave_file short here, pave_file short (next.file here)]
        exact ⟨rfl, Repeats.refl base tree⟩
      · have inside := ne_root_of_missing here
        have made := get?_put_self base (turn place segment) .directory inside
        have changes : ∀ other, (base.put (turn place segment) .directory).get? other ≠
            base.get? other → ((base.put (turn place segment) .directory).pave
              (turn place segment) rest).2.get? other =
                (base.put (turn place segment) .directory).get? other := by
          intro other changed
          rw [get?_put base inside] at changed ⊢
          by_cases same : other = turn place segment
          · subst other
            rw [if_pos rfl]
            exact pave_keeps_directory _ _ made
          · rw [if_neg same] at changed
            exact absurd rfl changed
        rw [pave_missing short here]
        -- Where the other tree has the directory already, only the base is changed here.
        rcases next with same | ⟨_, there⟩
        · have missing : tree.get? (turn place segment) = none := by rw [same, here]
          rw [pave_missing short missing]
          obtain ⟨outcome, repeats⟩ := ih fun other member => (later other member).put inside .directory
          exact ⟨outcome, (Repeats.put inside same .directory).trans repeats changes⟩
        · rw [pave_directory short there]
          obtain ⟨outcome, repeats⟩ := ih fun other member => (later other member).put_base inside there
          exact ⟨outcome, (Repeats.put_base inside there).trans repeats changes⟩

theorem enterAll_meets_file {place : Place} {segments : List Bytes}
    (kept : ∀ other ∈ route place segments, Kept base tree other)
    (met : base.enterAll place segments = .error .notDirectory) :
    tree.enterAll place segments = .error .notDirectory := by
  induction segments generalizing place with
  | nil => cases met
  | cons segment rest ih =>
      have first := kept place List.mem_cons_self
      cases here : base.get? place with
      | none =>
          rw [enterAll_missing here (List.cons_ne_nil _ _)] at met
          cases met
      | some node =>
          cases node with
          | file bytes executable =>
              exact enterAll_file (first.file here) (List.cons_ne_nil _ _)
          | directory =>
              rcases Nat.lt_or_ge nameLimit segment.length with long | short
              · rw [enterAll_tooLong here long] at met
                cases met
              · rw [enterAll_directory here short] at met
                rw [enterAll_directory (first.directory here) short]
                exact ih (fun other member => kept other (List.mem_cons_of_mem _ member)) met

/-- Segments that climb at their beginning only. -/
def ClimbsFirst (segments : List Bytes) : Prop :=
  ∃ climbs rest, segments = climbs ++ rest ∧ (∀ segment ∈ climbs, segment = Path.up) ∧
    Path.up ∉ rest

theorem file_of_notDirectory {place : Place} {segments : List Bytes}
    (met : tree.enterAll place segments = .error .notDirectory) :
    ∃ other ∈ route place segments, ∃ bytes executable,
      tree.get? other = some (.file bytes executable) := by
  induction segments generalizing place with
  | nil => cases met
  | cons segment rest ih =>
      cases here : tree.get? place with
      | none =>
          rw [enterAll_missing here (List.cons_ne_nil _ _)] at met
          cases met
      | some node =>
          cases node with
          | file bytes executable => exact ⟨place, List.mem_cons_self, bytes, executable, here⟩
          | directory =>
              rcases Nat.lt_or_ge nameLimit segment.length with long | short
              · rw [enterAll_tooLong here long] at met
                cases met
              · rw [enterAll_directory here short] at met
                obtain ⟨other, member, file⟩ := ih met
                exact ⟨other, List.mem_cons_of_mem _ member, file⟩

/-- Below a missing directory there is no file, so a walk that does not climb meets the same file
whether or not that directory has been made. -/
theorem meets_file_of_no_climb (sound : base.Sound) {place : Place} {segments : List Bytes}
    (level : Path.up ∉ segments) (start : base.get? place = some .directory)
    (kept : ∀ other ∈ route place segments, Kept base tree other)
    (met : tree.enterAll place segments = .error .notDirectory) :
    base.enterAll place segments = .error .notDirectory := by
  induction segments generalizing place with
  | nil => cases met
  | cons segment rest ih =>
      have later : ∀ other ∈ route (turn place segment) rest, Kept base tree other :=
        fun other member => kept other (List.mem_cons_of_mem _ member)
      have restLevel : Path.up ∉ rest := fun climbs => level (List.mem_cons_of_mem _ climbs)
      have there := (kept place List.mem_cons_self).directory start
      rcases pave_cases base place segment with long | ⟨short, here | ⟨bytes, executable, here⟩ | here⟩
      · rw [enterAll_tooLong there long] at met
        cases met
      · rw [enterAll_directory there short] at met
        rw [enterAll_directory start short]
        exact ih restLevel here later met
      · rw [enterAll_directory there short] at met
        rw [enterAll_directory start short]
        cases rest with
        | nil => cases met
        | cons next others => exact enterAll_file here (List.cons_ne_nil _ _)
      · rw [enterAll_directory there short] at met
        obtain ⟨other, member, bytes, executable, file⟩ := file_of_notDirectory met
        have taken : base.get? other ≠ none := by
          rcases later other member with same | ⟨_, directory⟩
          · rw [← same, file]
            exact nofun
          · rw [file] at directory
            cases directory
        -- The file would stand below the missing directory, where the base has nothing.
        obtain ⟨below, rfl⟩ := prefix_of_mem_route restLevel member
        cases below with
        | nil =>
            rw [List.append_nil, here] at taken
            exact absurd rfl taken
        | cons name others =>
            rw [sound.above (name :: others) taken (List.cons_ne_nil _ _)] at here
            cases here

theorem meets_file_of_level (sound : base.Sound) {place : Place} {segments : List Bytes}
    (level : ClimbsFirst segments) (start : base.get? place = some .directory)
    (kept : ∀ other ∈ route place segments, Kept base tree other)
    (met : tree.enterAll place segments = .error .notDirectory) :
    base.enterAll place segments = .error .notDirectory := by
  obtain ⟨climbs, rest, rfl, allClimb, level⟩ := level
  induction climbs generalizing place with
  | nil => exact meets_file_of_no_climb sound level start kept met
  | cons segment more ih =>
      have climb := allClimb segment List.mem_cons_self
      have there := (kept place List.mem_cons_self).directory start
      have short : segment.length ≤ nameLimit := by
        rw [climb]
        decide
      have above : base.get? (turn place segment) = some .directory := by
        rw [climb, turn_up]
        exact sound.dropLast (by rw [start]; exact nofun)
      rw [List.cons_append, enterAll_directory there short] at met
      rw [List.cons_append, enterAll_directory start short]
      exact ih above (fun other member => kept other (List.mem_cons_of_mem _ member)) met
        (fun other member => allClimb other (List.mem_cons_of_mem _ member))

/-- Two outcomes that are the same, up to the error that a file in the way is met with. -/
def Alike (alone outcome : Option OsError) : Prop :=
  outcome = alone ∨ alone = some .alreadyThere ∧ outcome = some .notDirectory

theorem made_tree {place : Place} {names : List Bytes} {result : Option OsError × FileTree}
    (start : tree.get? place = some .directory) (made : Made tree place names result) :
    result.2 = (tree.pave place names).2 ∧
      ((tree.enterAll place names ≠ .error .notDirectory ∧
          result.1 = (tree.pave place names).1) ∨
        tree.enterAll place names = .error .notDirectory ∧ result.1 = some .notDirectory ∧
          (tree.pave place names).1 = some .alreadyThere) := by
  rcases made with ⟨met, rfl⟩ | ⟨other, rfl⟩
  · rw [pave_of_error start met nofun, if_pos rfl]
    exact ⟨rfl, Or.inr ⟨met, rfl, rfl⟩⟩
  · exact ⟨rfl, Or.inl ⟨other, rfl⟩⟩

theorem made_repeats {place : Place} {names : List Bytes} {first second : Option OsError × FileTree}
    (start : base.get? place = some .directory)
    (kept : ∀ other ∈ route place names, Kept base tree other)
    (madeBase : Made base place names first) (made : Made tree place names second) :
    Repeats base first.2 tree second.2 ∧ Alike first.1 second.1 ∧
      (base.Sound → ClimbsFirst names → second.1 = first.1) := by
  have there := (kept place (start_mem_route _ _)).directory start
  obtain ⟨same, repeats⟩ := pave_repeats kept
  obtain ⟨baseTree, baseOutcome⟩ := made_tree start madeBase
  obtain ⟨ownTree, outcome⟩ := made_tree there made
  refine ⟨by rw [baseTree, ownTree]; exact repeats, ?_⟩
  rcases baseOutcome with ⟨baseOther, baseResult⟩ | ⟨baseMet, baseResult, _⟩
  · rcases outcome with ⟨_, result⟩ | ⟨met, result, taken⟩
    · exact ⟨Or.inl (by rw [result, baseResult, same]), fun _ _ => by rw [result, baseResult, same]⟩
    · refine ⟨Or.inr ⟨by rw [baseResult, ← same, taken], result⟩, ?_⟩
      intro sound level
      exact absurd (meets_file_of_level sound level start kept met) baseOther
  · have met := enterAll_meets_file kept baseMet
    rcases outcome with ⟨other, _⟩ | ⟨_, result, _⟩
    · exact absurd met other
    · exact ⟨Or.inl (by rw [result, baseResult]), fun _ _ => by rw [result, baseResult]⟩

/-! ### Files -/

theorem mem_route_steps {path : Path} {place other : Place} :
    other ∈ route place (steps path) ↔ other ∈ route place path.names := by
  rw [mem_route_filter, steps_names]

theorem lacksName_false {segments : List Bytes} (named : lacksName segments = false) :
    ∃ front last, segments = front ++ [last] ∧ last ≠ Path.here ∧ last ≠ Path.up := by
  rcases List.eq_nil_or_concat segments with rfl | ⟨front, last, rfl⟩
  · cases named
  · rw [List.concat_eq_append] at named ⊢
    rw [lacksName, List.getLast?_concat] at named
    simp only [Bool.or_eq_false_iff, beq_eq_false_iff_ne] at named
    exact ⟨front, last, rfl, named.1, named.2⟩

def openIn (tree : FileTree) (path : Path) (parent : Place) : Except OsError Place :=
  let bare := lacksName (steps path) || endsInSlash path
  match tree.enter parent (if bare then Path.here else (steps path).getLast?.getD []) with
  | .error error => .error error
  | .ok place => if tree.get? place = some .directory then .error .isDirectory else .ok place

theorem openPlace_eq (tree : FileTree) {path : Path} (fine : objection? path = none) :
    tree.openPlace path =
      match tree.enterAll (tree.origin path) (steps path).dropLast with
      | .error error => .error error
      | .ok parent => tree.openIn path parent := by
  unfold openPlace
  rw [approach_eq, fine]
  rfl

theorem openPlace_refused (tree : FileTree) {path : Path} {error : OsError}
    (refused : objection? path = some error) : tree.openPlace path = .error error := by
  unfold openPlace
  rw [approach_eq, refused]

theorem openIn_ok {path : Path} {parent place : Place}
    (opened : tree.openIn path parent = .ok place) :
    tree.get? parent = some .directory ∧ tree.get? place ≠ some .directory ∧
      ∃ front name, steps path = front ++ [name] ∧ turn parent name = place ∧
        place = parent ++ [name] := by
  unfold openIn at opened
  simp only at opened
  cases entered : tree.enter parent (if (lacksName (steps path) || endsInSlash path) = true then
      Path.here else (steps path).getLast?.getD []) with
  | error error =>
      rw [entered] at opened
      cases opened
  | ok next =>
      rw [entered] at opened
      obtain ⟨here, _, turned⟩ := enter_ok entered
      simp only at opened
      split at opened
      case isTrue => cases opened
      case isFalse other =>
        cases opened
        refine ⟨here, other, ?_⟩
        cases bare : lacksName (steps path) || endsInSlash path with
        | true =>
            rw [bare, if_pos rfl] at turned
            rw [turned, turn_of_vacuous (by decide)] at other
            exact absurd here other
        | false =>
            rw [bare, if_neg (by decide)] at turned
            obtain ⟨front, name, split, notHere, notUp⟩ :=
              lacksName_false (Bool.or_eq_false_iff.mp bare).1
            have someBytes : name ≠ [] := by
              have member : name ∈ steps path := by
                rw [split]
                exact List.mem_append_right _ List.mem_cons_self
              simpa using (List.mem_filter.mp member).2
            have named := Path.isVacuous_eq_false_iff.mpr ⟨someBytes, notHere⟩
            rw [split, List.getLast?_concat, Option.getD_some] at turned
            exact ⟨front, name, split, turned.symm, by rw [turned, turn_name named notUp]⟩

theorem openPlace_ok {path : Path} {place : Place} (opened : tree.openPlace path = .ok place) :
    place ∈ route (tree.origin path) path.names ∧ tree.get? place ≠ some .directory ∧
      ∃ parent name, place = parent ++ [name] ∧ tree.get? parent = some .directory := by
  cases refused : objection? path with
  | some error =>
      rw [openPlace_refused tree refused] at opened
      cases opened
  | none =>
      rw [openPlace_eq tree refused] at opened
      cases entered : tree.enterAll (tree.origin path) (steps path).dropLast with
      | error error =>
          rw [entered] at opened
          cases opened
      | ok parent =>
          rw [entered] at opened
          obtain ⟨here, other, front, name, split, turned, placeEq⟩ := openIn_ok opened
          refine ⟨?_, other, parent, name, placeEq, here⟩
          have ending : place = reach (tree.origin path) (steps path) := by
            rw [split, List.dropLast_concat] at entered
            rw [split, reach_append, ← enterAll_ok entered]
            exact turned.symm
          rw [← mem_route_steps, ending]
          exact reach_mem_route _ _

theorem origin_congr (starts : tree.start = base.start) (path : Path) :
    tree.origin path = base.origin path := by
  unfold FileTree.origin
  rw [starts]

theorem openIn_congr {path : Path} {parent : Place} (here : tree.get? parent = base.get? parent)
    (next : tree.get? (turn parent ((steps path).getLast?.getD [])) =
      base.get? (turn parent ((steps path).getLast?.getD []))) :
    tree.openIn path parent = base.openIn path parent := by
  have entered : ∀ segment, tree.enter parent segment = base.enter parent segment := by
    intro segment
    unfold enter
    rw [here]
  have reached : tree.get? (turn parent (if (lacksName (steps path) || endsInSlash path) = true then
      Path.here else (steps path).getLast?.getD [])) =
      base.get? (turn parent (if (lacksName (steps path) || endsInSlash path) = true then
        Path.here else (steps path).getLast?.getD [])) := by
    split
    case isTrue => exact here
    case isFalse => exact next
  unfold openIn
  simp only [entered]
  cases outcome : base.enter parent (if (lacksName (steps path) || endsInSlash path) = true then
      Path.here else (steps path).getLast?.getD []) with
  | error error => rfl
  | ok place =>
      rw [← (enter_ok outcome).2.2] at reached
      simp only [reached]

theorem openPlace_congr {path : Path} (starts : tree.start = base.start)
    (same : ∀ other ∈ route (base.origin path) path.names, tree.get? other = base.get? other) :
    tree.openPlace path = base.openPlace path := by
  cases refused : objection? path with
  | some error => rw [openPlace_refused tree refused, openPlace_refused base refused]
  | none =>
      have along : ∀ other ∈ route (base.origin path) (steps path),
          tree.get? other = base.get? other :=
        fun other member => same other (mem_route_steps.mp member)
      rw [openPlace_eq tree refused, openPlace_eq base refused, origin_congr starts]
      rcases List.eq_nil_or_concat (steps path) with noneLeft | ⟨front, last, split⟩
      · rw [noneLeft] at along ⊢
        have here := along _ (start_mem_route _ _)
        exact openIn_congr here (by rw [noneLeft]; exact here)
      · rw [List.concat_eq_append] at split
        have before : ∀ other ∈ route (base.origin path) front,
            tree.get? other = base.get? other := by
          intro other member
          rw [split] at along
          exact along other (mem_route_append.mpr (Or.inl member))
        rw [split, List.dropLast_concat, enterAll_congr before]
        cases entered : base.enterAll (base.origin path) front with
        | error error => rfl
        | ok parent =>
            have goal := enterAll_ok entered
            refine openIn_congr ?_ ?_
            · rw [goal]
              exact before _ (reach_mem_route _ _)
            · rw [split, List.getLast?_concat, Option.getD_some, goal]
              have ending := along _ (reach_mem_route _ _)
              rw [split, reach_append] at ending
              exact ending

def executableAt (tree : FileTree) (place : Place) : Bool :=
  match tree.get? place with
  | some (.file _ executable) => executable
  | _ => false

/-- Writing a file, with the tree that is left after a failure. -/
def written (tree : FileTree) (path : Path) (bytes : Bytes) : Option OsError × FileTree :=
  match tree.openPlace path with
  | .ok place => (none, tree.put place (.file bytes (tree.executableAt place)))
  | .error error => (some error, tree)

theorem written_repeats {path : Path} (bytes : Bytes) (starts : tree.start = base.start)
    (same : ∀ other ∈ route (base.origin path) path.names, tree.get? other = base.get? other) :
    (tree.written path bytes).1 = (base.written path bytes).1 ∧
      Repeats base (base.written path bytes).2 tree (tree.written path bytes).2 := by
  unfold written
  rw [openPlace_congr starts same]
  cases opened : base.openPlace path with
  | error error => exact ⟨rfl, Repeats.refl base tree⟩
  | ok place =>
      obtain ⟨member, _, parent, name, placeEq, _⟩ := openPlace_ok opened
      have here := same place member
      have executable : tree.executableAt place = base.executableAt place := by
        unfold executableAt
        rw [here]
      simp only [executable]
      exact ⟨trivial, Repeats.put (by rw [placeEq]; simp) here _⟩

theorem written_start (path : Path) (bytes : Bytes) :
    (tree.written path bytes).2.start = tree.start := by
  unfold written
  cases tree.openPlace path <;> rfl

theorem written_sound (sound : tree.Sound) (path : Path) (bytes : Bytes) :
    (tree.written path bytes).2.Sound := by
  unfold written
  cases opened : tree.openPlace path with
  | error error => exact sound
  | ok place =>
      obtain ⟨_, free, parent, name, rfl, here⟩ := openPlace_ok opened
      exact sound.put here free _

variable (tree) in
theorem written_get? (path : Path) (bytes : Bytes) (other : Place) :
    (tree.written path bytes).2.get? other = tree.get? other ∨
      other ∈ route (tree.origin path) path.names ∧ tree.get? other ≠ some .directory := by
  unfold written
  cases opened : tree.openPlace path with
  | error error => exact Or.inl rfl
  | ok place =>
      obtain ⟨member, free, parent, name, placeEq, _⟩ := openPlace_ok opened
      by_cases same : other = place
      · subst other
        exact Or.inr ⟨member, free⟩
      · refine Or.inl ?_
        rw [get?_put tree (by rw [placeEq]; simp), if_neg same]

/-! ### Products -/

theorem written_eq (tree : FileTree) (path : Path) (bytes : Bytes) :
    tree.written path bytes =
      match tree.writeFile path bytes with
      | .ok next => (none, next)
      | .error error => (some error, tree) := by
  unfold writeFile written executableAt
  cases tree.openPlace path <;> rfl

theorem writeProduct_written (tree : FileTree) (path : Path) (bytes : Bytes) :
    tree.writeProduct path bytes =
      match path.parent? with
      | none => tree.written path bytes
      | some parent =>
          if parent.isEmpty then tree.written path bytes
          else
            match tree.makeAll parent with
            | (some error, next) => (some error, next)
            | (none, next) => next.written path bytes := by
  unfold writeProduct
  cases path.parent? with
  | none => exact (written_eq tree path bytes).symm
  | some parent =>
      simp only
      by_cases empty : parent.isEmpty = true
      · rw [if_pos empty, if_pos empty]
        exact (written_eq tree path bytes).symm
      · rw [if_neg empty, if_neg empty]
        cases tree.makeAll parent with
        | mk cause next =>
            cases cause with
            | some error => rfl
            | none => exact (written_eq next path bytes).symm

/-- The directories of a product, made first. -/
def cleared (tree : FileTree) (path : Path) : Option OsError × FileTree :=
  match path.parent? with
  | none => (none, tree)
  | some parent => if parent.isEmpty then (none, tree) else tree.makeAll parent

theorem writeProduct_cleared (tree : FileTree) (path : Path) (bytes : Bytes) :
    tree.writeProduct path bytes =
      match tree.cleared path with
      | (some error, next) => (some error, next)
      | (none, next) => next.written path bytes := by
  rw [writeProduct_written]
  unfold cleared
  cases path.parent? with
  | none => rfl
  | some parent =>
      simp only
      by_cases empty : parent.isEmpty = true
      · rw [if_pos empty, if_pos empty]
      · rw [if_neg empty, if_neg empty]

/-- Either the system refuses the directories of a product in every tree alike, or they are made
along all names of its path but the last. -/
theorem cleared_cases (path : Path) :
    (∃ error, ∀ tree : FileTree, tree.cleared path = (some error, tree)) ∨
      ∀ tree : FileTree, tree.Sound →
        Made tree (tree.origin path) path.names.dropLast (tree.cleared path) := by
  rcases Path.parent?_cases path with ⟨nothing, lone⟩ | ⟨parent, found, above⟩
  · refine Or.inr ?_
    intro tree _
    have untouched : tree.cleared path = (none, tree) := by
      unfold cleared
      rcases nothing with noneFound | emptyFound
      · rw [noneFound]
      · rw [emptyFound]
        exact if_pos rfl
    rw [lone, untouched]
    exact Or.inr ⟨nofun, rfl⟩
  · have proper : ¬(parent.isEmpty = true) := by
      simpa [Path.isEmpty] using above.inhabited
    have made : ∀ tree : FileTree, tree.cleared path = tree.makeAll parent := by
      intro tree
      unfold cleared
      rw [found]
      exact if_neg proper
    obtain ⟨name, names⟩ := above.names
    cases refused : objection? parent with
    | some error =>
        refine Or.inl ⟨error, ?_⟩
        intro tree
        rw [made, makeAll_refused refused above.inhabited]
    | none =>
        refine Or.inr ?_
        intro tree sound
        rw [made, names, List.dropLast_concat, ← Above.origin_eq above]
        exact makeAll_made sound refused above.trimmed

theorem route_dropLast {path : Path} {place other : Place}
    (member : other ∈ route place path.names.dropLast) : other ∈ route place path.names := by
  rcases List.eq_nil_or_concat path.names with nameless | ⟨front, name, split⟩
  · rw [nameless] at member ⊢
    exact member
  · rw [split, List.concat_eq_append, List.dropLast_concat] at member
    rw [split, List.concat_eq_append]
    exact mem_route_append.mpr (Or.inl member)

theorem cleared_sound (sound : tree.Sound) (path : Path) : (tree.cleared path).2.Sound := by
  rcases cleared_cases path with ⟨error, refused⟩ | made
  · rw [refused]
    exact sound
  · have start := sound.origin path
    rw [(made_tree start (made tree sound)).1]
    exact pave_sound sound _ start

theorem cleared_start (sound : tree.Sound) (path : Path) :
    (tree.cleared path).2.start = tree.start := by
  rcases cleared_cases path with ⟨error, refused⟩ | made
  · rw [refused]
  · rw [(made_tree (sound.origin path) (made tree sound)).1, pave_start]

theorem writeProduct_sound (sound : tree.Sound) (path : Path) (bytes : Bytes) :
    (tree.writeProduct path bytes).2.Sound := by
  have before := cleared_sound sound path
  rw [writeProduct_cleared]
  generalize tree.cleared path = result at before ⊢
  rcases result with ⟨_ | error, next⟩
  · exact written_sound before path bytes
  · exact before

theorem writeProduct_start (sound : tree.Sound) (path : Path) (bytes : Bytes) :
    (tree.writeProduct path bytes).2.start = tree.start := by
  have before := cleared_start sound path
  rw [writeProduct_cleared]
  generalize tree.cleared path = result at before ⊢
  rcases result with ⟨_ | error, next⟩
  · exact (written_start path bytes).trans before
  · exact before

theorem cleared_get? (sound : tree.Sound) (path : Path) (other : Place) :
    (tree.cleared path).2.get? other = tree.get? other ∨
      tree.get? other = none ∧ (tree.cleared path).2.get? other = some .directory ∧
        other ∈ route (tree.origin path) path.names.dropLast := by
  rcases cleared_cases path with ⟨error, refused⟩ | made
  · rw [refused]
    exact Or.inl rfl
  · rw [(made_tree (sound.origin path) (made tree sound)).1]
    exact pave_get? _ _ other

theorem cleared_directories (sound : tree.Sound) (path : Path)
    (through : (tree.cleared path).1 = none) :
    ∀ other ∈ route (tree.origin path) path.names.dropLast,
      (tree.cleared path).2.get? other = some .directory := by
  rcases cleared_cases path with ⟨error, refused⟩ | made
  · rw [refused] at through
    cases through
  · have start := sound.origin path
    obtain ⟨same, ⟨_, outcome⟩ | ⟨_, outcome, _⟩⟩ := made_tree start (made tree sound)
    · rw [outcome] at through
      rw [same]
      exact (pave_directories start through).1
    · rw [outcome] at through
      cases through

theorem writeProduct_get? (sound : tree.Sound) (path : Path) (bytes : Bytes) (other : Place) :
    (tree.writeProduct path bytes).2.get? other = tree.get? other ∨
      other ∈ route (tree.origin path) path.names ∧
        (other ∈ route (tree.origin path) path.names.dropLast →
          tree.get? other = none ∧
            (tree.writeProduct path bytes).2.get? other = some .directory) := by
  have before := cleared_get? sound path other
  have directories := cleared_directories sound path
  have starts := cleared_start sound path
  rw [writeProduct_cleared]
  generalize tree.cleared path = result at before directories starts ⊢
  rcases result with ⟨_ | error, next⟩
  · have origins : next.origin path = tree.origin path := origin_congr starts path
    have after := written_get? next path bytes other
    rw [origins] at after
    rcases after with same | ⟨member, free⟩
    · simp only [same]
      exact before.imp_right fun made => ⟨route_dropLast made.2.2, fun _ => ⟨made.1, made.2.1⟩⟩
    · exact Or.inr ⟨member, fun inside => absurd (directories rfl other inside) free⟩
  · exact before.imp_right fun made => ⟨route_dropLast made.2.2, fun _ => ⟨made.1, made.2.1⟩⟩

/-- Along the path of a product a tree agrees with another, but for some of the directories that the
product needs. -/
def Close (base tree : FileTree) (path : Path) : Prop :=
  ∀ other ∈ route (base.origin path) path.names,
    tree.get? other = base.get? other ∨
      base.get? other = none ∧ tree.get? other = some .directory ∧
        other ∈ route (base.origin path) path.names.dropLast

theorem cleared_repeats (baseSound : base.Sound) (sound : tree.Sound)
    (starts : tree.start = base.start) {path : Path} (close : Close base tree path) :
    Repeats base (base.cleared path).2 tree (tree.cleared path).2 ∧
      Alike (base.cleared path).1 (tree.cleared path).1 ∧
      (ClimbsFirst path.names.dropLast → (tree.cleared path).1 = (base.cleared path).1) := by
  rcases cleared_cases path with ⟨error, refused⟩ | made
  · rw [refused, refused]
    exact ⟨Repeats.refl base tree, Or.inl rfl, fun _ => rfl⟩
  · have kept : ∀ other ∈ route (base.origin path) path.names.dropLast, Kept base tree other := by
      intro other member
      exact (close other (route_dropLast member)).imp_right fun made => ⟨made.1, made.2.1⟩
    have made_tree := made tree sound
    rw [origin_congr starts] at made_tree
    obtain ⟨repeats, alike, exactOutcome⟩ :=
      made_repeats (baseSound.origin path) kept (made base baseSound) made_tree
    exact ⟨repeats, alike, exactOutcome baseSound⟩

/-- Writing a product makes the same changes in both trees. -/
theorem writeProduct_repeats (baseSound : base.Sound) (sound : tree.Sound)
    (starts : tree.start = base.start) {path : Path} (close : Close base tree path)
    (bytes : Bytes) :
    Repeats base (base.writeProduct path bytes).2 tree (tree.writeProduct path bytes).2 ∧
      Alike (base.writeProduct path bytes).1 (tree.writeProduct path bytes).1 ∧
      (ClimbsFirst path.names.dropLast →
        (tree.writeProduct path bytes).1 = (base.writeProduct path bytes).1) := by
  obtain ⟨repeats, alike, same⟩ := cleared_repeats baseSound sound starts close
  have baseDirectories := cleared_directories baseSound path
  have directories := cleared_directories sound path
  have baseChanges := cleared_get? baseSound path
  have baseStarts := cleared_start baseSound path
  have treeStarts := cleared_start sound path
  rw [writeProduct_cleared, writeProduct_cleared]
  rw [origin_congr starts] at directories
  generalize base.cleared path = first at *
  generalize tree.cleared path = second at *
  obtain ⟨baseCause, baseNext⟩ := first
  obtain ⟨cause, next⟩ := second
  cases baseCause with
  | some error =>
      cases cause with
      | some other => exact ⟨repeats, alike, same⟩
      | none => rcases alike with impossible | ⟨_, impossible⟩ <;> cases impossible
  | none =>
      have through : cause = none := by
        rcases alike with outcome | ⟨impossible, _⟩
        · exact outcome
        · cases impossible
      subst through
      have agree : ∀ other ∈ route (base.origin path) path.names,
          next.get? other = baseNext.get? other := by
        intro other member
        by_cases inside : other ∈ route (base.origin path) path.names.dropLast
        · rw [directories rfl other inside, baseDirectories rfl other inside]
        · have before : tree.get? other = base.get? other :=
            (close other member).resolve_right fun made => inside made.2.2
          rw [repeats other]
          split
          case isTrue unchanged => rw [before, unchanged]
          case isFalse => rfl
      have nextStarts : next.start = baseNext.start :=
        treeStarts.trans (starts.trans baseStarts.symm)
      have baseOrigin : baseNext.origin path = base.origin path := origin_congr baseStarts path
      rw [← baseOrigin] at agree
      obtain ⟨outcome, more⟩ := written_repeats bytes nextStarts agree
      refine ⟨repeats.trans more ?_, Or.inl outcome, fun _ => outcome⟩
      intro other changed
      rcases written_get? baseNext path bytes other with unchanged | ⟨_, free⟩
      · exact unchanged
      · rcases baseChanges other with unchanged | ⟨_, directory, _⟩
        · exact absurd unchanged changed
        · exact absurd directory free

end CompilerDriver.FileTree
