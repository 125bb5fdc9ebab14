import CompilerDriver.Proofs.FileTree.Walk
import CompilerDriver.Proofs.Path.Segments

/-!
Making a directory with all that is missing above it. One march along the names of the path does the
same: it makes what is missing and stops at a file. Only the error may differ. A walk that meets a
file before anything is missing sees no directory there, while the march that had to make a
directory before it finds the name taken.
-/

namespace CompilerDriver.FileTree

/-- Goes along segments and makes every directory that is missing. -/
def pave (tree : FileTree) (place : Place) : List Bytes → Option OsError × FileTree
  | [] => (none, tree)
  | segment :: rest =>
      if nameLimit < segment.length then (some .nameTooLong, tree)
      else
        match tree.get? (turn place segment) with
        | some .directory => tree.pave (turn place segment) rest
        | some (.file ..) => (some .alreadyThere, tree)
        | none => (tree.put (turn place segment) .directory).pave (turn place segment) rest

variable {tree : FileTree}

@[simp] theorem pave_nil (place : Place) : tree.pave place [] = (none, tree) := rfl

theorem pave_tooLong {segment : Bytes} (long : nameLimit < segment.length) (place : Place)
    (rest : List Bytes) : tree.pave place (segment :: rest) = (some .nameTooLong, tree) :=
  if_pos long

theorem pave_directory {place : Place} {segment : Bytes} (short : segment.length ≤ nameLimit)
    (here : tree.get? (turn place segment) = some .directory) (rest : List Bytes) :
    tree.pave place (segment :: rest) = tree.pave (turn place segment) rest := by
  rw [pave, if_neg (Nat.not_lt_of_le short), here]

theorem pave_file {place : Place} {segment bytes : Bytes} {executable : Bool}
    (short : segment.length ≤ nameLimit)
    (here : tree.get? (turn place segment) = some (.file bytes executable)) (rest : List Bytes) :
    tree.pave place (segment :: rest) = (some .alreadyThere, tree) := by
  rw [pave, if_neg (Nat.not_lt_of_le short), here]

theorem pave_missing {place : Place} {segment : Bytes} (short : segment.length ≤ nameLimit)
    (missing : tree.get? (turn place segment) = none) (rest : List Bytes) :
    tree.pave place (segment :: rest) =
      (tree.put (turn place segment) .directory).pave (turn place segment) rest := by
  rw [pave, if_neg (Nat.not_lt_of_le short), missing]

/-- A march goes on, stops at a name that is too long or at a file, or makes a directory and goes
on. -/
theorem pave_cases (tree : FileTree) (place : Place) (segment : Bytes) :
    nameLimit < segment.length ∨
      segment.length ≤ nameLimit ∧
        (tree.get? (turn place segment) = some .directory ∨
          (∃ bytes executable, tree.get? (turn place segment) = some (.file bytes executable)) ∨
          tree.get? (turn place segment) = none) := by
  rcases Nat.lt_or_ge nameLimit segment.length with long | short
  · exact Or.inl long
  · refine Or.inr ⟨short, ?_⟩
    cases here : tree.get? (turn place segment) with
    | none => exact Or.inr (Or.inr rfl)
    | some node =>
        cases node with
        | directory => exact Or.inl rfl
        | file bytes executable => exact Or.inr (Or.inl ⟨bytes, executable, rfl⟩)

theorem ne_root_of_missing {place : Place} (missing : tree.get? place = none) : place ≠ [] := by
  intro root
  rw [root, get?_root] at missing
  cases missing

theorem pave_append (place : Place) (front back : List Bytes) :
    tree.pave place (front ++ back) =
      match tree.pave place front with
      | (none, next) => next.pave (reach place front) back
      | (some error, next) => (some error, next) := by
  induction front generalizing tree place with
  | nil => rfl
  | cons segment rest ih =>
      rw [List.cons_append]
      rcases pave_cases tree place segment with long | ⟨short, here | ⟨bytes, executable, here⟩ | here⟩
      · rw [pave_tooLong long, pave_tooLong long]
      · rw [pave_directory short here, pave_directory short here]
        exact ih _
      · rw [pave_file short here, pave_file short here]
      · rw [pave_missing short here, pave_missing short here]
        exact ih _

@[simp] theorem pave_start (place : Place) (segments : List Bytes) :
    (tree.pave place segments).2.start = tree.start := by
  induction segments generalizing tree place with
  | nil => rfl
  | cons segment rest ih =>
      rcases pave_cases tree place segment with long | ⟨short, here | ⟨bytes, executable, here⟩ | here⟩
      · rw [pave_tooLong long]
      · rw [pave_directory short here, ih]
      · rw [pave_file short here]
      · rw [pave_missing short here, ih, put_start]

theorem pave_get? (place : Place) (segments : List Bytes) (other : Place) :
    (tree.pave place segments).2.get? other = tree.get? other ∨
      tree.get? other = none ∧ (tree.pave place segments).2.get? other = some .directory ∧
        other ∈ route place segments := by
  induction segments generalizing tree place with
  | nil => exact Or.inl rfl
  | cons segment rest ih =>
      rcases pave_cases tree place segment with long | ⟨short, here | ⟨bytes, executable, here⟩ | here⟩
      · rw [pave_tooLong long]
        exact Or.inl rfl
      · rw [pave_directory short here]
        exact (ih _).imp_right fun made => ⟨made.1, made.2.1, List.mem_cons_of_mem _ made.2.2⟩
      · rw [pave_file short here]
        exact Or.inl rfl
      · rw [pave_missing short here]
        have inside := ne_root_of_missing here
        have later := @ih (tree.put (turn place segment) .directory) (turn place segment)
        rw [get?_put tree inside] at later
        by_cases same : other = turn place segment
        · subst other
          rw [if_pos rfl] at later
          have made := later.resolve_right fun impossible => by cases impossible.1
          exact Or.inr ⟨here, made, List.mem_cons_of_mem _ (start_mem_route _ _)⟩
        · rw [if_neg same] at later
          exact later.imp_right fun made => ⟨made.1, made.2.1, List.mem_cons_of_mem _ made.2.2⟩

theorem pave_keeps_directory (place : Place) (segments : List Bytes) {other : Place}
    (here : tree.get? other = some .directory) :
    (tree.pave place segments).2.get? other = some .directory := by
  rcases tree.pave_get? place segments other with same | ⟨missing, _⟩
  · rw [same, here]
  · rw [here] at missing
    cases missing

theorem pave_directories {place : Place} {segments : List Bytes}
    (start : tree.get? place = some .directory) (through : (tree.pave place segments).1 = none) :
    (∀ other ∈ route place segments,
        (tree.pave place segments).2.get? other = some .directory) ∧
      ∀ segment ∈ segments, segment.length ≤ nameLimit := by
  induction segments generalizing tree place with
  | nil =>
      refine ⟨?_, nofun⟩
      intro other member
      rw [List.mem_singleton.mp member]
      exact start
  | cons segment rest ih =>
      rcases pave_cases tree place segment with long | ⟨short, here | ⟨bytes, executable, here⟩ | here⟩
      · rw [pave_tooLong long] at through
        cases through
      · have first := pave_keeps_directory (turn place segment) rest start
        rw [pave_directory short here] at through ⊢
        obtain ⟨directories, fits⟩ := ih here through
        exact ⟨List.forall_mem_cons.mpr ⟨first, directories⟩,
          List.forall_mem_cons.mpr ⟨short, fits⟩⟩
      · rw [pave_file short here] at through
        cases through
      · have inside := ne_root_of_missing here
        rw [pave_missing short here] at through ⊢
        have made := get?_put_self tree (turn place segment) .directory inside
        have kept : (tree.put (turn place segment) .directory).get? place = some .directory := by
          rw [get?_put tree inside]
          split
          · rfl
          · exact start
        have first := pave_keeps_directory (turn place segment) rest kept
        obtain ⟨directories, fits⟩ := ih made through
        exact ⟨List.forall_mem_cons.mpr ⟨first, directories⟩,
          List.forall_mem_cons.mpr ⟨short, fits⟩⟩

theorem turn_of_missing (sound : tree.Sound) {place : Place} {segment : Bytes}
    (start : tree.get? place = some .directory) (missing : tree.get? (turn place segment) = none) :
    turn place segment = place ++ [segment] := by
  unfold turn at missing ⊢
  split at missing
  · rw [start] at missing
    cases missing
  · split at missing
    · rw [sound.dropLast (by rw [start]; exact nofun)] at missing
      cases missing
    · rw [if_neg (by assumption), if_neg (by assumption)]

theorem pave_sound (sound : tree.Sound) {place : Place} (segments : List Bytes)
    (start : tree.get? place = some .directory) : (tree.pave place segments).2.Sound := by
  induction segments generalizing tree place with
  | nil => exact sound
  | cons segment rest ih =>
      rcases pave_cases tree place segment with long | ⟨short, here | ⟨bytes, executable, here⟩ | here⟩
      · rw [pave_tooLong long]
        exact sound
      · rw [pave_directory short here]
        exact ih sound here
      · rw [pave_file short here]
        exact sound
      · rw [pave_missing short here]
        have inside := ne_root_of_missing here
        have forward := turn_of_missing sound start here
        refine ih ?_ (get?_put_self tree _ .directory inside)
        rw [forward] at here ⊢
        exact sound.put start (by rw [here]; exact nofun) .directory

theorem enterAll_missing {place : Place} (missing : tree.get? place = none) {segments : List Bytes}
    (more : segments ≠ []) : tree.enterAll place segments = .error .noEntry := by
  cases segments with
  | nil => exact absurd rfl more
  | cons segment rest => rw [enterAll, enter_of_missing missing]

theorem enterAll_file {place : Place} {bytes : Bytes} {executable : Bool}
    (here : tree.get? place = some (.file bytes executable)) {segments : List Bytes}
    (more : segments ≠ []) : tree.enterAll place segments = .error .notDirectory := by
  cases segments with
  | nil => exact absurd rfl more
  | cons segment rest => rw [enterAll, enter_of_file here]

theorem enterAll_directory {place : Place} {segment : Bytes}
    (here : tree.get? place = some .directory) (short : segment.length ≤ nameLimit)
    (rest : List Bytes) :
    tree.enterAll place (segment :: rest) = tree.enterAll (turn place segment) rest := by
  rw [enterAll, enter_of_directory here, if_neg (Nat.not_lt_of_le short)]

theorem enterAll_tooLong {place : Place} {segment : Bytes}
    (here : tree.get? place = some .directory) (long : nameLimit < segment.length)
    (rest : List Bytes) : tree.enterAll place (segment :: rest) = .error .nameTooLong := by
  rw [enterAll, enter_of_directory here, if_pos long]

theorem pave_of_ok {place goal : Place} {segments : List Bytes}
    (start : tree.get? place = some .directory)
    (entered : tree.enterAll place segments = .ok goal)
    (ending : tree.get? goal = some .directory) : tree.pave place segments = (none, tree) := by
  induction segments generalizing place with
  | nil => rfl
  | cons segment rest ih =>
      rcases pave_cases tree place segment with long | ⟨short, here | ⟨bytes, executable, here⟩ | here⟩
      · rw [enterAll_tooLong start long] at entered
        cases entered
      · rw [enterAll_directory start short] at entered
        rw [pave_directory short here]
        exact ih here entered
      · rw [enterAll_directory start short] at entered
        cases rest with
        | nil =>
            cases entered
            rw [here] at ending
            cases ending
        | cons next others =>
            rw [enterAll_file here (List.cons_ne_nil _ _)] at entered
            cases entered
      · rw [enterAll_directory start short] at entered
        cases rest with
        | nil =>
            cases entered
            rw [here] at ending
            cases ending
        | cons next others =>
            rw [enterAll_missing here (List.cons_ne_nil _ _)] at entered
            cases entered

/-- Where a walk fails for anything but a missing directory, a march fails too and makes nothing. -/
theorem pave_of_error {place : Place} {segments : List Bytes} {error : OsError}
    (start : tree.get? place = some .directory)
    (failed : tree.enterAll place segments = .error error) (other : error ≠ .noEntry) :
    tree.pave place segments =
      (some (if error = .notDirectory then .alreadyThere else error), tree) := by
  induction segments generalizing place with
  | nil => cases failed
  | cons segment rest ih =>
      rcases pave_cases tree place segment with long | ⟨short, here | ⟨bytes, executable, here⟩ | here⟩
      · rw [enterAll_tooLong start long] at failed
        cases failed
        rw [pave_tooLong long, if_neg (by decide)]
      · rw [enterAll_directory start short] at failed
        rw [pave_directory short here]
        exact ih here failed
      · rw [enterAll_directory start short] at failed
        cases rest with
        | nil => cases failed
        | cons next others =>
            rw [enterAll_file here (List.cons_ne_nil _ _)] at failed
            cases failed
            rw [pave_file short here, if_pos rfl]
      · rw [enterAll_directory start short] at failed
        cases rest with
        | nil => cases failed
        | cons next others =>
            rw [enterAll_missing here (List.cons_ne_nil _ _)] at failed
            cases failed
            exact absurd rfl other

/-! ### The system's view of a path -/

/-- Why the system refuses a path, whatever the tree. -/
def objection? (path : Path) : Option OsError :=
  if path.bytes.contains 0 then some .zeroInPath
  else if path.isEmpty then some .noEntry
  else if pathLimit ≤ path.bytes.length then some .nameTooLong
  else none

def origin (tree : FileTree) (path : Path) : Place :=
  if path.isAbsolute then [] else tree.start

def steps (path : Path) : List Bytes :=
  path.segments.filter fun segment => !segment.isEmpty

theorem approach_eq (tree : FileTree) (path : Path) :
    tree.approach path =
      match objection? path with
      | some error => .error error
      | none => .ok (tree.origin path, steps path) := by
  unfold approach objection?
  split
  · rfl
  · split
    · rfl
    · split <;> rfl

theorem Sound.origin (sound : tree.Sound) (path : Path) :
    tree.get? (tree.origin path) = some .directory := by
  unfold FileTree.origin
  split
  · rfl
  · exact sound.start

theorem steps_names (path : Path) :
    (steps path).filter (fun segment => !Path.isVacuous segment) = path.names := by
  unfold steps Path.names
  rw [List.filter_filter]
  refine List.filter_congr ?_
  intro segment _
  cases segment with
  | nil => rfl
  | cons byte rest => exact Bool.and_true _

/-- Paths without vacuous segments at the end. -/
def Trimmed (path : Path) : Prop :=
  path.names = [] ∨ ∃ front name, path.segments = front ++ [name] ∧ Path.isVacuous name = false

theorem steps_of_trimmed {path : Path} {front : List Bytes} {name : Bytes}
    (split : path.segments = front ++ [name]) (named : Path.isVacuous name = false) :
    ∃ before, steps path = before ++ [name] := by
  refine ⟨front.filter fun segment => !segment.isEmpty, ?_⟩
  unfold steps
  rw [split, List.filter_append, List.filter_cons_of_pos, List.filter_nil]
  cases name with
  | nil => cases named
  | cons byte rest => rfl

theorem vacuous_of_names_nil {path : Path} (nameless : path.names = []) :
    ∀ segment ∈ steps path, Path.isVacuous segment = true := by
  intro segment member
  rw [← steps_names] at nameless
  simpa using List.filter_eq_nil_iff.mp nameless segment member

theorem enterAll_steps {path : Path} (trimmed : Trimmed path) {place : Place}
    (start : tree.get? place = some .directory) :
    tree.enterAll place (steps path) = tree.enterAll place path.names := by
  rcases trimmed with nameless | ⟨front, name, split, named⟩
  · rw [enterAll_all_vacuous start (vacuous_of_names_nil nameless), nameless]
    rfl
  · obtain ⟨before, ending⟩ := steps_of_trimmed split named
    rw [← steps_names, ending, enterAll_filter named]

theorem isDirectory_iff {path : Path} (fine : objection? path = none) (trimmed : Trimmed path)
    (sound : tree.Sound) :
    tree.isDirectory path = true ↔
      ∃ place, tree.enterAll (tree.origin path) path.names = .ok place ∧
        tree.get? place = some .directory := by
  unfold isDirectory look locate
  rw [approach_eq, fine]
  simp only [enterAll_steps trimmed (sound.origin path)]
  cases entered : tree.enterAll (tree.origin path) path.names with
  | error error => simp
  | ok place =>
      cases here : tree.get? place with
      | none => simp [here]
      | some node =>
          cases node with
          | directory => simp [here]
          | file bytes executable => cases endsInSlash path <;> simp [here]

/-- What is made of an attempt to make one directory: it is no failure when one is there already. -/
def settled (tree : FileTree) (path : Path) : Except OsError FileTree → Option OsError × FileTree
  | .ok next => (none, next)
  | .error error => if tree.isDirectory path then (none, tree) else (some error, tree)

variable (tree) in
theorem makeDirectory_eq {path : Path} (fine : objection? path = none) :
    tree.makeDirectory path =
      match tree.enterAll (tree.origin path) (steps path) with
      | .error error => .error error
      | .ok place =>
          if lacksName (steps path) || (tree.get? place).isSome then .error .alreadyThere
          else .ok (tree.put place .directory) := by
  unfold makeDirectory
  cases entered : tree.enterAll (tree.origin path) (steps path) with
  | error error => simp only [approach_eq, fine, entered]
  | ok place => simp only [approach_eq, fine, entered]

variable {path : Path}

theorem settled_of_error (sound : tree.Sound) (fine : objection? path = none)
    (trimmed : Trimmed path) {error : OsError}
    (failed : tree.enterAll (tree.origin path) path.names = .error error) :
    tree.makeDirectory path = .error error ∧
      tree.settled path (.error error) = (some error, tree) := by
  constructor
  · rw [makeDirectory_eq tree fine, enterAll_steps trimmed (sound.origin path), failed]
  · have absent : tree.isDirectory path ≠ true := by
      rw [ne_eq, isDirectory_iff fine trimmed sound, failed]
      rintro ⟨place, impossible, _⟩
      cases impossible
    rw [settled, if_neg absent]

theorem lacksName_of_vacuous {segments : List Bytes}
    (vacuous : ∀ segment ∈ segments, Path.isVacuous segment = true)
    (proper : ∀ segment ∈ segments, segment ≠ []) : lacksName segments = true := by
  unfold lacksName
  cases last : segments.getLast? with
  | none => rfl
  | some segment =>
      have member := List.mem_of_getLast? last
      have trivialPart := vacuous segment member
      have someBytes := proper segment member
      simp only [Path.isVacuous, Bool.or_eq_true, List.isEmpty_iff, beq_iff_eq] at trivialPart
      rw [trivialPart.resolve_left someBytes]
      rfl

theorem settled_of_nameless (sound : tree.Sound) (fine : objection? path = none)
    (nameless : path.names = []) :
    tree.makeDirectory path = .error .alreadyThere ∧
      tree.settled path (.error .alreadyThere) = (none, tree) := by
  have start := sound.origin path
  have vacuous := vacuous_of_names_nil nameless
  constructor
  · have proper : ∀ segment ∈ steps path, segment ≠ [] := by
      intro segment member
      simpa using (List.mem_filter.mp member).2
    rw [makeDirectory_eq tree fine, enterAll_all_vacuous start vacuous, lacksName_of_vacuous vacuous proper]
    rfl
  · have present : tree.isDirectory path = true := by
      rw [isDirectory_iff fine (Or.inl nameless) sound, nameless]
      exact ⟨_, rfl, start⟩
    rw [settled, if_pos present]

theorem lacksName_steps (trimmed : Trimmed path) {front : List Bytes} {name : Bytes}
    (split : path.names = front ++ [name]) : lacksName (steps path) = (name == Path.up) := by
  rcases trimmed with nameless | ⟨before, last, ending, named⟩
  · rw [nameless] at split
    simp at split
  · obtain ⟨earlier, stepsEq⟩ := steps_of_trimmed ending named
    have names := steps_names path
    rw [stepsEq, List.filter_append, List.filter_cons_of_pos (by simp [named]), List.filter_nil,
      split] at names
    have same : last = name := by
      have tails := (List.append_inj' names rfl).2
      exact (List.cons.inj tails).1
    subst last
    have other : (name == Path.here) = false := by
      simp only [Path.isVacuous, Bool.or_eq_false_iff] at named
      exact named.2
    rw [lacksName, stepsEq, List.getLast?_concat]
    simp [other]

theorem settled_of_ok (sound : tree.Sound) (fine : objection? path = none)
    (trimmed : Trimmed path) {front : List Bytes} {name : Bytes} {place : Place}
    (split : path.names = front ++ [name])
    (entered : tree.enterAll (tree.origin path) front = .ok place)
    (here : tree.get? place = some .directory) :
    tree.makeDirectory path ≠ .error .noEntry ∧
      tree.settled path (tree.makeDirectory path) = tree.pave place [name] := by
  have walk : tree.enterAll (tree.origin path) path.names = tree.enter place name := by
    rw [split, enterAll_append, entered]
    exact enterAll_singleton place name
  have made := makeDirectory_eq tree fine
  rw [enterAll_steps trimmed (sound.origin path), walk, enter_of_directory here,
    lacksName_steps trimmed split] at made
  have present := isDirectory_iff fine trimmed sound
  rw [walk, enter_of_directory here] at present
  rcases pave_cases tree place name with long | ⟨short, next | ⟨bytes, executable, next⟩ | next⟩
  · rw [if_pos long] at made present
    have absent : tree.isDirectory path ≠ true := by
      rw [ne_eq, present]
      rintro ⟨place, impossible, _⟩
      cases impossible
    rw [made, pave_tooLong long, settled, if_neg absent]
    exact ⟨nofun, rfl⟩
  · rw [if_neg (Nat.not_lt_of_le short)] at made present
    simp only [next, Option.isSome_some, Bool.or_true, if_true] at made
    rw [made, pave_directory short next, pave_nil, settled, if_pos (present.mpr ⟨_, rfl, next⟩)]
    exact ⟨nofun, rfl⟩
  · rw [if_neg (Nat.not_lt_of_le short)] at made present
    simp only [next, Option.isSome_some, Bool.or_true, if_true] at made
    have absent : tree.isDirectory path ≠ true := by
      rw [ne_eq, present]
      rintro ⟨other, same, directory⟩
      cases same
      rw [next] at directory
      cases directory
    rw [made, pave_file short next, settled, if_neg absent]
    exact ⟨nofun, rfl⟩
  · -- A climb out of a directory ends in a directory, so a missing name is no climb.
    have level : (name == Path.up) = false := by
      rw [beq_eq_false_iff_ne]
      intro climbs
      rw [climbs, turn_up, sound.dropLast (by rw [here]; exact nofun)] at next
      cases next
    rw [if_neg (Nat.not_lt_of_le short)] at made
    simp only [next, level, Option.isSome_none, Bool.or_false, Bool.false_eq_true, if_false] at made
    rw [made, pave_missing short next, pave_nil]
    exact ⟨nofun, rfl⟩

/-! ### All directories of a path -/

theorem makeDirectories_succ (depth : Nat) (tree : FileTree) (path : Path) :
    makeDirectories (depth + 1) tree path =
      match tree.makeDirectory path with
      | .error (.numbered 2) =>
          match path.parent? with
          | none => (some (.described "failed to create whole tree"), tree)
          | some parent =>
              if parent.isEmpty then tree.settled path (tree.makeDirectory path)
              else
                match makeDirectories depth tree parent with
                | (some error, next) => (some error, next)
                | (none, next) => next.settled path (next.makeDirectory path)
      | result => tree.settled path result := by
  rfl

theorem makeDirectories_of_other {depth : Nat} (other : tree.makeDirectory path ≠ .error .noEntry) :
    makeDirectories (depth + 1) tree path = tree.settled path (tree.makeDirectory path) := by
  rw [makeDirectories_succ]
  split
  case h_1 failed => exact absurd failed other
  case h_2 => rfl

theorem makeDirectories_of_noEntry {depth : Nat} {parent : Path}
    (failed : tree.makeDirectory path = .error .noEntry) (above : path.parent? = some parent)
    (proper : parent.bytes ≠ []) :
    makeDirectories (depth + 1) tree path =
      match makeDirectories depth tree parent with
      | (some error, next) => (some error, next)
      | (none, next) => next.settled path (next.makeDirectory path) := by
  have someParent : ¬(parent.isEmpty = true) := by
    simpa [Path.isEmpty] using proper
  rw [makeDirectories_succ, failed, above]
  exact if_neg someParent

/-- What making all directories along names comes to: a march, unless a walk meets a file before
anything is missing. -/
def Made (tree : FileTree) (place : Place) (names : List Bytes)
    (result : Option OsError × FileTree) : Prop :=
  (tree.enterAll place names = .error .notDirectory ∧ result = (some .notDirectory, tree)) ∨
    (tree.enterAll place names ≠ .error .notDirectory ∧ result = tree.pave place names)

theorem objection?_of_beginning {parent path : Path} (fine : objection? path = none)
    (beginning : parent.bytes <+: path.bytes) (proper : parent.bytes ≠ []) :
    objection? parent = none := by
  unfold objection? at fine ⊢
  split at fine
  case isTrue => cases fine
  case isFalse clean =>
    split at fine
    case isTrue => cases fine
    case isFalse =>
      split at fine
      case isTrue => cases fine
      case isFalse short =>
        have fewer := beginning.length_le
        rw [if_neg, if_neg, if_neg (by omega)]
        · simpa [Path.isEmpty] using proper
        · intro zero
          refine clean ?_
          rw [List.contains_iff_mem] at zero ⊢
          exact beginning.subset zero

theorem made_of_ok {depth : Nat} (sound : tree.Sound) (fine : objection? path = none)
    (trimmed : Trimmed path) {front : List Bytes} {name : Bytes} {place : Place}
    (split : path.names = front ++ [name])
    (entered : tree.enterAll (tree.origin path) front = .ok place)
    (here : tree.get? place = some .directory) :
    Made tree (tree.origin path) path.names (makeDirectories (depth + 1) tree path) := by
  obtain ⟨other, ending⟩ := settled_of_ok sound fine trimmed split entered here
  refine Or.inr ⟨?_, ?_⟩
  · rw [split, enterAll_append, entered]
    simp only [enterAll_singleton, enter_of_directory here]
    split <;> nofun
  · rw [makeDirectories_of_other other, ending, split, pave_append,
      pave_of_ok (sound.origin path) entered here, enterAll_ok entered]

theorem made_of_error {depth : Nat} (sound : tree.Sound) (fine : objection? path = none)
    (trimmed : Trimmed path) {error : OsError}
    (failed : tree.enterAll (tree.origin path) path.names = .error error)
    (other : error ≠ .noEntry) :
    Made tree (tree.origin path) path.names (makeDirectories (depth + 1) tree path) := by
  obtain ⟨made, ending⟩ := settled_of_error sound fine trimmed failed
  have result : makeDirectories (depth + 1) tree path = (some error, tree) := by
    rw [makeDirectories_of_other (by rw [made]; simpa using other), made, ending]
  by_cases file : error = .notDirectory
  · subst error
    exact Or.inl ⟨failed, result⟩
  · refine Or.inr ⟨by rw [failed]; simpa using file, ?_⟩
    rw [result, pave_of_error (sound.origin path) failed other, if_neg file]

theorem Above.origin_eq {parent : Path} (above : Path.Above parent path) (tree : FileTree) :
    tree.origin parent = tree.origin path := by
  unfold FileTree.origin
  rw [above.absolute]

theorem made_of_missing {depth : Nat} (sound : tree.Sound) (fine : objection? path = none)
    (trimmed : Trimmed path) {parent : Path} (found : path.parent? = some parent)
    (above : Path.Above parent path)
    (failed : tree.enterAll (tree.origin path) path.names = .error .noEntry)
    (below : Made tree (tree.origin path) parent.names (makeDirectories depth tree parent)) :
    Made tree (tree.origin path) path.names (makeDirectories (depth + 1) tree path) := by
  obtain ⟨name, split⟩ := above.names
  have start := sound.origin path
  have made := (settled_of_error sound fine trimmed failed).1
  refine Or.inr ⟨by rw [failed]; nofun, ?_⟩
  rw [makeDirectories_of_noEntry made found above.inhabited]
  rcases below with ⟨file, _⟩ | ⟨_, result⟩
  · rw [split, enterAll_append, file] at failed
    cases failed
  · rw [result, split, pave_append]
    cases marched : tree.pave (tree.origin path) parent.names with
    | mk cause next =>
        cases cause with
        | some error => rfl
        | none =>
            -- The march made the parent, so in the tree it left the last name comes next.
            have nextEq : next = (tree.pave (tree.origin path) parent.names).2 := by rw [marched]
            have through : (tree.pave (tree.origin path) parent.names).1 = none := by rw [marched]
            obtain ⟨directories, short⟩ := pave_directories start through
            have nextSound := pave_sound sound parent.names start
            have sameOrigin : next.origin path = tree.origin path := by
              unfold FileTree.origin
              rw [nextEq, pave_start]
            rw [← nextEq] at directories nextSound
            have entered := enterAll_of_directories directories short
            rw [← sameOrigin] at entered directories ⊢
            exact (settled_of_ok nextSound fine trimmed split entered
              (directories _ (reach_mem_route _ _))).2

theorem makeDirectories_made (depth : Nat) (sound : tree.Sound) (fine : objection? path = none)
    (trimmed : Trimmed path) (deep : path.names.length ≤ depth) :
    Made tree (tree.origin path) path.names (makeDirectories depth tree path) := by
  induction depth generalizing path with
  | zero =>
      rw [List.length_eq_zero_iff.mp (Nat.le_zero.mp deep)]
      exact Or.inr ⟨nofun, rfl⟩
  | succ depth ih =>
      rcases Path.parent?_cases path with ⟨_, lone⟩ | ⟨parent, found, above⟩
      · rcases List.eq_nil_or_concat path.names with nameless | ⟨front, name, split⟩
        · obtain ⟨made, ending⟩ := settled_of_nameless sound fine nameless
          rw [makeDirectories_of_other (by rw [made]; nofun), made, ending, nameless]
          exact Or.inr ⟨nofun, rfl⟩
        · rw [List.concat_eq_append] at split
          have empty : front = [] := by
            rw [split, List.dropLast_concat] at lone
            exact lone
          subst empty
          exact made_of_ok sound fine trimmed split rfl (sound.origin path)
      · obtain ⟨name, split⟩ := above.names
        have belowFine : objection? parent = none :=
          objection?_of_beginning fine above.beginning above.inhabited
        have fewer : parent.names.length ≤ depth := by
          rw [split, List.length_append, List.length_singleton] at deep
          omega
        have below := ih belowFine above.trimmed fewer
        rw [Above.origin_eq above] at below
        -- How far the walk to the parent gets decides whether the parent is made at all.
        cases entered : tree.enterAll (tree.origin path) parent.names with
        | error error =>
            have failed : tree.enterAll (tree.origin path) path.names = .error error := by
              rw [split, enterAll_append, entered]
            by_cases missing : error = .noEntry
            · subst error
              exact made_of_missing sound fine trimmed found above failed below
            · exact made_of_error sound fine trimmed failed missing
        | ok place =>
            have last : tree.enterAll (tree.origin path) path.names = tree.enter place name := by
              rw [split, enterAll_append, entered]
              exact enterAll_singleton place name
            cases here : tree.get? place with
            | none =>
                rw [enter_of_missing here] at last
                exact made_of_missing sound fine trimmed found above last below
            | some node =>
                cases node with
                | directory => exact made_of_ok sound fine trimmed split entered here
                | file bytes executable =>
                    rw [enter_of_file here] at last
                    exact made_of_error sound fine trimmed last nofun

/-- Making all directories of a path is a march along its names, but for the error that a file in
the way is met with. -/
theorem makeAll_made (sound : tree.Sound) (fine : objection? path = none) (trimmed : Trimmed path) :
    Made tree (tree.origin path) path.names (tree.makeAll path) :=
  makeDirectories_made _ sound fine trimmed (List.length_filter_le _ _)

theorem makeAll_refused {error : OsError} (refused : objection? path = some error)
    (proper : path.bytes ≠ []) : tree.makeAll path = (some error, tree) := by
  have made : tree.makeDirectory path = .error error := by
    unfold makeDirectory
    rw [approach_eq, refused]
  have other : error ≠ .noEntry := by
    unfold objection? at refused
    split at refused
    · cases refused
      nofun
    · split at refused
      case isTrue empty => exact absurd (List.isEmpty_iff.mp empty) proper
      case isFalse =>
        split at refused
        · cases refused
          nofun
        · cases refused
  have absent : tree.isDirectory path ≠ true := by
    unfold isDirectory look locate
    rw [approach_eq, refused]
    nofun
  have deep : ∃ depth, path.segments.length = depth + 1 :=
    Nat.exists_eq_add_one.mpr (List.length_pos_iff.mpr (Path.segments_ne_nil path))
  obtain ⟨depth, length⟩ := deep
  unfold makeAll
  rw [length, makeDirectories_of_other (by rw [made]; simpa using other), made, settled,
    if_neg absent]

end CompilerDriver.FileTree
