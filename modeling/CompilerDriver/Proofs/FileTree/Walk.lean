import CompilerDriver.FileTree

/-!
Walking along a path. Which places a walk comes by depends on its segments alone; the tree only
decides how far the walk gets. In a sound tree, as every tree of directories and files is one, what
stands in a directory that is missing is missing too.
-/

namespace CompilerDriver.FileTree

@[simp] theorem get?_root (tree : FileTree) : tree.get? [] = some .directory := rfl

theorem get?_put (tree : FileTree) {place : Place} (inside : place ≠ []) (node : Node)
    (other : Place) :
    (tree.put place node).get? other = if other = place then some node else tree.get? other := by
  by_cases same : other = place
  · subst other
    rw [if_pos rfl, get?_put_self tree place node inside]
  · rw [if_neg same]
    unfold get? put
    cases other with
    | nil => rfl
    | cons name rest =>
        have apart : ((name :: rest : Place) == place) = false := by simpa using same
        simp only [List.isEmpty_cons, Bool.false_eq_true, if_false, List.lookup_cons, apart]
        induction tree.entries with
        | nil => rfl
        | cons entry others ih =>
            by_cases removed : entry.1 = place
            · have apartEntry : ((name :: rest : Place) == entry.1) = false := by
                rw [removed]
                exact apart
              rw [List.filter_cons_of_neg (by simp [removed]), ih, List.lookup_cons, apartEntry]
            · rw [List.filter_cons_of_pos (by simp [removed]), List.lookup_cons, List.lookup_cons, ih]

@[simp] theorem put_start (tree : FileTree) (place : Place) (node : Node) :
    (tree.put place node).start = tree.start := rfl

/-- Everything stands in a directory, and so do relative paths. -/
structure Sound (tree : FileTree) : Prop where
  start : tree.get? tree.start = some .directory
  closed : ∀ place name, tree.get? (place ++ [name]) ≠ none → tree.get? place = some .directory

variable {tree : FileTree}

theorem Sound.above (sound : tree.Sound) {place : Place} (below : Place)
    (taken : tree.get? (place ++ below) ≠ none) (proper : below ≠ []) :
    tree.get? place = some .directory := by
  induction below generalizing place with
  | nil => exact absurd rfl proper
  | cons name rest ih =>
      refine sound.closed place name ?_
      cases rest with
      | nil => exact taken
      | cons next others =>
          rw [ih (by rwa [List.append_assoc]) (List.cons_ne_nil _ _)]
          exact nofun

theorem Sound.dropLast (sound : tree.Sound) {place : Place}
    (taken : tree.get? place ≠ none) : tree.get? place.dropLast = some .directory := by
  rcases List.eq_nil_or_concat place with rfl | ⟨front, last, rfl⟩
  · rfl
  · rw [List.concat_eq_append] at taken ⊢
    rw [List.dropLast_concat]
    exact sound.closed front last taken

/-- Something new in a directory, where there was no directory, leaves a tree sound. -/
theorem Sound.put (sound : tree.Sound) {place : Place} {name : Name}
    (parent : tree.get? place = some .directory)
    (free : tree.get? (place ++ [name]) ≠ some .directory) (node : Node) :
    (tree.put (place ++ [name]) node).Sound := by
  have inside : place ++ [name] ≠ [] := by simp
  refine ⟨?_, ?_⟩
  · rw [put_start, get?_put tree inside, if_neg, sound.start]
    intro same
    rw [← same] at free
    exact free sound.start
  · intro other last taken
    rw [get?_put tree inside] at taken ⊢
    have notUnder : other ≠ place ++ [name] := by
      intro same
      rw [same, if_neg (by simp)] at taken
      exact free (sound.closed _ _ taken)
    rw [if_neg notUnder]
    by_cases here : other ++ [last] = place ++ [name]
    · rw [(List.append_inj' here rfl).1]
      exact parent
    · rw [if_neg here] at taken
      exact sound.closed other last taken

/-! ### Places along a walk -/

def turn (place : Place) (segment : Bytes) : Place :=
  if Path.isVacuous segment then place
  else if segment = Path.up then place.dropLast
  else place ++ [segment]

def reach (place : Place) (segments : List Bytes) : Place :=
  segments.foldl turn place

/-- The places that segments come by, from the first to the last. -/
def route (place : Place) : List Bytes → List Place
  | [] => [place]
  | segment :: rest => place :: route (turn place segment) rest

theorem turn_of_vacuous {segment : Bytes} (vacuous : Path.isVacuous segment = true)
    (place : Place) : turn place segment = place :=
  if_pos vacuous

theorem turn_up (place : Place) : turn place Path.up = place.dropLast := rfl

theorem turn_name {segment : Bytes} (named : Path.isVacuous segment = false)
    (level : segment ≠ Path.up) (place : Place) : turn place segment = place ++ [segment] := by
  rw [turn, if_neg (by simp [named]), if_neg level]

@[simp] theorem reach_nil (place : Place) : reach place [] = place := rfl

@[simp] theorem reach_cons (place : Place) (segment : Bytes) (rest : List Bytes) :
    reach place (segment :: rest) = reach (turn place segment) rest := rfl

theorem reach_append (place : Place) (front back : List Bytes) :
    reach place (front ++ back) = reach (reach place front) back :=
  List.foldl_append

theorem reach_filter (place : Place) (segments : List Bytes) :
    reach place (segments.filter fun segment => !Path.isVacuous segment) = reach place segments := by
  unfold reach
  rw [List.foldl_filter]
  congr 1
  funext here segment
  cases vacuous : Path.isVacuous segment with
  | true => exact (turn_of_vacuous vacuous here).symm
  | false => rfl

theorem start_mem_route (place : Place) (segments : List Bytes) :
    place ∈ route place segments := by
  cases segments <;> exact List.mem_cons_self

theorem reach_mem_route (place : Place) (segments : List Bytes) :
    reach place segments ∈ route place segments := by
  induction segments generalizing place with
  | nil => exact List.mem_cons_self
  | cons segment rest ih => exact List.mem_cons_of_mem _ (ih _)

theorem mem_route_append {place other : Place} {front back : List Bytes} :
    other ∈ route place (front ++ back) ↔
      other ∈ route place front ∨ other ∈ route (reach place front) back := by
  induction front generalizing place with
  | nil =>
      constructor
      · exact Or.inr
      · rintro (here | later)
        · rw [List.mem_singleton.mp here]
          exact start_mem_route _ _
        · exact later
  | cons segment rest ih =>
      rw [List.cons_append, route, route, List.mem_cons, List.mem_cons, ih, reach_cons, or_assoc]

theorem prefix_of_mem_route {place other : Place} {segments : List Bytes}
    (level : Path.up ∉ segments) (member : other ∈ route place segments) : place <+: other := by
  induction segments generalizing place with
  | nil =>
      have here : other = place := List.mem_singleton.mp member
      exact here ▸ List.prefix_refl place
  | cons segment rest ih =>
      rcases List.mem_cons.mp member with here | later
      · exact here ▸ List.prefix_refl place
      · refine List.IsPrefix.trans ?_ (ih (fun up => level (List.mem_cons_of_mem _ up)) later)
        cases named : Path.isVacuous segment with
        | true => exact (turn_of_vacuous named place).symm ▸ List.prefix_refl place
        | false =>
            rw [turn_name named (fun same => level (same ▸ List.mem_cons_self))]
            exact List.prefix_append _ _

theorem length_le_of_vacuous {segment : Bytes} (vacuous : Path.isVacuous segment = true) :
    segment.length ≤ nameLimit := by
  simp only [Path.isVacuous, Bool.or_eq_true, List.isEmpty_iff, beq_iff_eq] at vacuous
  rcases vacuous with rfl | rfl <;> decide

theorem enter_of_directory {place : Place} (here : tree.get? place = some .directory)
    (segment : Bytes) :
    tree.enter place segment =
      if nameLimit < segment.length then .error .nameTooLong else .ok (turn place segment) := by
  unfold enter
  rw [here]
  simp only
  cases vacuous : Path.isVacuous segment with
  | true =>
      have short := length_le_of_vacuous vacuous
      rw [if_pos rfl, if_neg (by omega), turn_of_vacuous vacuous]
  | false =>
      by_cases climbs : segment = Path.up
      · subst segment
        rfl
      · rw [if_neg (by simp), if_neg climbs, turn_name vacuous climbs]

theorem enter_of_missing {place : Place} (missing : tree.get? place = none) (segment : Bytes) :
    tree.enter place segment = .error .noEntry := by
  unfold enter
  rw [missing]

theorem enter_of_file {place : Place} {bytes : Bytes} {executable : Bool}
    (here : tree.get? place = some (.file bytes executable)) (segment : Bytes) :
    tree.enter place segment = .error .notDirectory := by
  unfold enter
  rw [here]

theorem enter_ok {place next : Place} {segment : Bytes}
    (entered : tree.enter place segment = .ok next) :
    tree.get? place = some .directory ∧ segment.length ≤ nameLimit ∧ next = turn place segment := by
  cases here : tree.get? place with
  | none =>
      rw [enter_of_missing here] at entered
      cases entered
  | some node =>
      cases node with
      | file bytes executable =>
          rw [enter_of_file here] at entered
          cases entered
      | directory =>
          rw [enter_of_directory here] at entered
          split at entered
          · cases entered
          · cases entered
            exact ⟨rfl, by omega, rfl⟩

theorem enterAll_append (place : Place) (front back : List Bytes) :
    tree.enterAll place (front ++ back) =
      match tree.enterAll place front with
      | .ok next => tree.enterAll next back
      | .error error => .error error := by
  induction front generalizing place with
  | nil => rfl
  | cons segment rest ih =>
      rw [List.cons_append, enterAll, enterAll]
      cases tree.enter place segment with
      | ok next => exact ih next
      | error error => rfl

theorem enterAll_singleton (place : Place) (segment : Bytes) :
    tree.enterAll place [segment] = tree.enter place segment := by
  rw [enterAll]
  cases tree.enter place segment <;> rfl

theorem enterAll_ok {place goal : Place} {segments : List Bytes}
    (entered : tree.enterAll place segments = .ok goal) : goal = reach place segments := by
  induction segments generalizing place with
  | nil =>
      cases entered
      rfl
  | cons segment rest ih =>
      rw [enterAll] at entered
      cases first : tree.enter place segment with
      | error error =>
          rw [first] at entered
          cases entered
      | ok next =>
          rw [first] at entered
          rw [ih entered, reach_cons, (enter_ok first).2.2]

theorem enterAll_start {place goal : Place} {segments : List Bytes}
    (entered : tree.enterAll place segments = .ok goal) (more : segments ≠ []) :
    tree.get? place = some .directory := by
  cases segments with
  | nil => exact absurd rfl more
  | cons segment rest =>
      rw [enterAll] at entered
      cases first : tree.enter place segment with
      | error error =>
          rw [first] at entered
          cases entered
      | ok next => exact (enter_ok first).1

theorem enterAll_of_directories {place : Place} {segments : List Bytes}
    (directories : ∀ other ∈ route place segments, tree.get? other = some .directory)
    (short : ∀ segment ∈ segments, segment.length ≤ nameLimit) :
    tree.enterAll place segments = .ok (reach place segments) := by
  induction segments generalizing place with
  | nil => rfl
  | cons segment rest ih =>
      have fits := short segment List.mem_cons_self
      rw [enterAll, enter_of_directory (directories place List.mem_cons_self), if_neg (by omega)]
      exact ih (fun other member => directories other (List.mem_cons_of_mem _ member))
        (fun other member => short other (List.mem_cons_of_mem _ member))

theorem enterAll_congr {left right : FileTree} {place : Place} {segments : List Bytes}
    (same : ∀ other ∈ route place segments, left.get? other = right.get? other) :
    left.enterAll place segments = right.enterAll place segments := by
  induction segments generalizing place with
  | nil => rfl
  | cons segment rest ih =>
      have first : left.enter place segment = right.enter place segment := by
        unfold enter
        rw [same place List.mem_cons_self]
      rw [enterAll, enterAll, first]
      cases entered : right.enter place segment with
      | error error => rfl
      | ok next =>
          rw [(enter_ok entered).2.2]
          exact ih fun other member => same other (List.mem_cons_of_mem _ member)

theorem enter_blocked {place : Place} (blocked : tree.get? place ≠ some .directory) :
    ∃ error, ∀ segment, tree.enter place segment = .error error := by
  cases here : tree.get? place with
  | none => exact ⟨.noEntry, enter_of_missing here⟩
  | some node =>
      cases node with
      | directory => exact absurd here blocked
      | file bytes executable => exact ⟨.notDirectory, enter_of_file here⟩

theorem enterAll_vacuous {segment : Bytes} (vacuous : Path.isVacuous segment = true)
    (place : Place) {rest : List Bytes} (more : rest ≠ []) :
    tree.enterAll place (segment :: rest) = tree.enterAll place rest := by
  by_cases here : tree.get? place = some .directory
  · have short := length_le_of_vacuous vacuous
    rw [enterAll, enter_of_directory here, if_neg (by omega), turn_of_vacuous vacuous]
  · obtain ⟨error, blocked⟩ := enter_blocked here
    cases rest with
    | nil => exact absurd rfl more
    | cons next others =>
        rw [enterAll, enterAll, blocked, blocked]

theorem enterAll_all_vacuous {place : Place} (here : tree.get? place = some .directory)
    {segments : List Bytes} (vacuous : ∀ segment ∈ segments, Path.isVacuous segment = true) :
    tree.enterAll place segments = .ok place := by
  induction segments with
  | nil => rfl
  | cons segment rest ih =>
      have first := vacuous segment List.mem_cons_self
      have short := length_le_of_vacuous first
      rw [enterAll, enter_of_directory here, if_neg (by omega), turn_of_vacuous first]
      exact ih fun other member => vacuous other (List.mem_cons_of_mem _ member)

theorem enterAll_filter {name : Bytes} (named : Path.isVacuous name = false)
    (place : Place) (front : List Bytes) :
    tree.enterAll place (front ++ [name]) =
      tree.enterAll place ((front ++ [name]).filter fun segment => !Path.isVacuous segment) := by
  induction front generalizing place with
  | nil => rw [List.nil_append, List.filter_cons_of_pos (by simp [named]), List.filter_nil]
  | cons segment rest ih =>
      rw [List.cons_append]
      cases vacuous : Path.isVacuous segment with
      | true =>
          rw [enterAll_vacuous vacuous place (by simp), List.filter_cons_of_neg (by simp [vacuous]),
            ih]
      | false =>
          rw [List.filter_cons_of_pos (by simp [vacuous]), enterAll, enterAll]
          cases tree.enter place segment with
          | ok next => exact ih next
          | error error => rfl

theorem mem_route_filter {place other : Place} {segments : List Bytes} :
    other ∈ route place segments ↔
      other ∈ route place (segments.filter fun segment => !Path.isVacuous segment) := by
  induction segments generalizing place with
  | nil => rfl
  | cons segment rest ih =>
      cases vacuous : Path.isVacuous segment with
      | false =>
          rw [List.filter_cons_of_pos (by simp [vacuous]), route, route, List.mem_cons, List.mem_cons,
            ih]
      | true =>
          rw [List.filter_cons_of_neg (by simp [vacuous]), route, turn_of_vacuous vacuous,
            List.mem_cons, ih]
          constructor
          · rintro (here | later)
            · rw [here]
              exact start_mem_route _ _
            · exact later
          · exact Or.inr

end CompilerDriver.FileTree
