import CompilerDriver.Proofs.Path.Normal

/-!
Normal forms against a relative directory. A climb takes back the name before it. The climbs that
find no name lead out of the directory where the walk starts, so each of them has to be kept; but a
normal form takes a kept climb for a name, and the next climb takes it back. Of the climbs out of
the start every second one is left in the normal form, so it leads to the right place as long as
there is one such climb at most.
-/

namespace CompilerDriver.Path

open FileTree (turn reach)

/-- What is left of a walk from a place that is not known: the climbs that found no name to take
back, and the names behind them. -/
structure Trail where
  climbs : Nat := 0
  names : List Bytes := []
  deriving Repr, DecidableEq

namespace Trail

def turn (trail : Trail) (segment : Bytes) : Trail :=
  if isVacuous segment then trail
  else if segment = up then
    if trail.names = [] then { trail with climbs := trail.climbs + 1 }
    else { trail with names := trail.names.dropLast }
  else { trail with names := trail.names ++ [segment] }

def follow (trail : Trail) (segments : List Bytes) : Trail :=
  segments.foldl turn trail

def segments (trail : Trail) : List Bytes :=
  List.replicate trail.climbs up ++ trail.names

def spelled (trail : Trail) : Path :=
  ofSegments trail.segments

def halved (trail : Trail) : Trail :=
  { trail with climbs := trail.climbs % 2 }

/-- The names of a trail name something. -/
def Proper (trail : Trail) : Prop :=
  Legible trail.names ∧ up ∉ trail.names

theorem proper_start : Proper {} :=
  ⟨fun _ member => absurd member List.not_mem_nil, List.not_mem_nil⟩

theorem Proper.halved {trail : Trail} (proper : trail.Proper) : trail.halved.Proper := proper

theorem legible_segments {trail : Trail} (proper : trail.Proper) : Legible trail.segments := by
  intro segment member
  rcases List.mem_append.mp member with climb | name
  · rw [List.eq_of_mem_replicate climb]
    decide
  · exact proper.1 segment name

theorem turn_cases (trail : Trail) (segment : Bytes) :
    (isVacuous segment = true ∧ trail.turn segment = trail) ∨
      (segment = up ∧ trail.names = [] ∧
        trail.turn segment = { trail with climbs := trail.climbs + 1 }) ∨
      (∃ front last, segment = up ∧ trail.names = front ++ [last] ∧
        trail.turn segment = { trail with names := front }) ∨
      (isVacuous segment = false ∧ segment ≠ up ∧
        trail.turn segment = { trail with names := trail.names ++ [segment] }) := by
  unfold turn
  cases vacuous : isVacuous segment with
  | true => exact Or.inl ⟨rfl, if_pos rfl⟩
  | false =>
      rw [if_neg nofun]
      refine Or.inr ?_
      by_cases climbs : segment = up
      · rw [if_pos climbs]
        rcases List.eq_nil_or_concat trail.names with nameless | ⟨front, last, split⟩
        · exact Or.inl ⟨climbs, nameless, if_pos nameless⟩
        · rw [List.concat_eq_append] at split
          refine Or.inr (Or.inl ⟨front, last, climbs, split, ?_⟩)
          rw [if_neg (by simp [split]), split, List.dropLast_concat]
      · rw [if_neg climbs]
        exact Or.inr (Or.inr ⟨rfl, climbs, rfl⟩)

theorem names_turn (trail : Trail) (segment : Bytes) :
    (trail.turn segment).names = FileTree.turn trail.names segment := by
  unfold turn FileTree.turn
  split
  case isTrue => rfl
  case isFalse =>
    split
    case isTrue =>
      split
      case isTrue nameless => exact nameless.trans (congrArg List.dropLast nameless).symm
      case isFalse => rfl
    case isFalse => rfl

theorem Proper.turn {trail : Trail} (proper : trail.Proper) {segment : Bytes}
    (clean : slash ∉ segment) : (trail.turn segment).Proper := by
  unfold Proper
  rw [names_turn]
  exact legible_turn proper clean

theorem Proper.reach_turn {trail : Trail} (proper : trail.Proper) (segment : Bytes)
    (place : Place) :
    reach place (trail.turn segment).segments =
      FileTree.turn (reach place trail.segments) segment := by
  rcases trail.turn_cases segment with ⟨vacuous, same⟩ | ⟨climbs, nameless, more⟩ |
    ⟨front, last, climbs, split, fewer⟩ | ⟨named, level, longer⟩
  · rw [same, FileTree.turn_of_vacuous vacuous]
  · rw [more, climbs]
    unfold segments
    rw [nameless, List.append_nil, List.append_nil, List.replicate_succ', FileTree.reach_append]
    rfl
  · have member : last ∈ trail.names := by
      rw [split]
      exact List.mem_append_right _ List.mem_cons_self
    have notUp : last ≠ up := fun same => proper.2 (same ▸ member)
    rw [fewer, climbs]
    unfold segments
    rw [split, ← List.append_assoc, FileTree.reach_append _ _ [last], FileTree.reach_cons,
      FileTree.turn_name (proper.1 last member).1 notUp, FileTree.turn_up, FileTree.reach_nil,
      List.dropLast_concat]
  · rw [longer]
    unfold segments
    rw [← List.append_assoc, FileTree.reach_append]
    rfl

/-- Of the climbs that lead out of the start, a normal form has the last one if their number is odd.
Its names are those of the trail. -/
theorem walk_turn {trail : Trail} {kept : List Bytes}
    (held : kept.reverse = trail.halved.segments) (segment : Bytes) :
    (walk false kept segment).reverse = (trail.turn segment).halved.segments := by
  unfold halved segments at held ⊢
  rcases trail.turn_cases segment with ⟨vacuous, same⟩ | ⟨climbs, nameless, more⟩ |
    ⟨front, last, climbs, split, fewer⟩ | ⟨named, level, longer⟩
  · have unmoved : walk false kept segment = kept := if_pos vacuous
    rw [same, unmoved]
    exact held
  · rw [more, climbs]
    rw [nameless, List.append_nil] at held
    simp only [nameless, List.append_nil]
    rcases Nat.mod_two_eq_zero_or_one trail.climbs with even | odd
    · rw [even, List.replicate_zero, List.reverse_eq_nil_iff] at held
      have next : (trail.climbs + 1) % 2 = 1 := by omega
      rw [held, next]
      rfl
    · rw [odd, List.replicate_one, List.reverse_eq_iff] at held
      have next : (trail.climbs + 1) % 2 = 0 := by omega
      rw [held, next]
      rfl
  · rw [fewer, climbs]
    rw [split, ← List.append_assoc, List.reverse_eq_iff, List.reverse_concat] at held
    rw [held]
    exact List.reverse_reverse _
  · have pushed : walk false kept segment = segment :: kept := by
      unfold walk
      rw [if_neg (by simp [named]), if_neg level]
    rw [longer, pushed, List.reverse_cons, held, List.append_assoc]

theorem Proper.follow {trail : Trail} (proper : trail.Proper) {segments : List Bytes}
    (clean : ∀ segment ∈ segments, slash ∉ segment) : (trail.follow segments).Proper := by
  induction segments generalizing trail with
  | nil => exact proper
  | cons segment rest ih =>
      have first := proper.turn (clean segment List.mem_cons_self)
      exact ih first fun other member => clean other (List.mem_cons_of_mem _ member)

theorem Proper.reach_follow {trail : Trail} (proper : trail.Proper) {segments : List Bytes}
    (clean : ∀ segment ∈ segments, slash ∉ segment) (place : Place) :
    reach place (trail.follow segments).segments = reach (reach place trail.segments) segments := by
  induction segments generalizing trail with
  | nil => rfl
  | cons segment rest ih =>
      have first := proper.turn (clean segment List.mem_cons_self)
      have others : ∀ other ∈ rest, slash ∉ other := fun other member =>
        clean other (List.mem_cons_of_mem _ member)
      rw [FileTree.reach_cons, ← proper.reach_turn]
      exact ih first others

theorem walk_follow {trail : Trail} {kept : List Bytes}
    (held : kept.reverse = trail.halved.segments) (segments : List Bytes) :
    (segments.foldl (walk false) kept).reverse = (trail.follow segments).halved.segments := by
  induction segments generalizing trail kept with
  | nil => exact held
  | cons segment rest ih => exact ih (walk_turn held segment)

variable {tree : FileTree} {place next goal : Place}

theorem Proper.enterAll_turn {trail : Trail} (proper : trail.Proper) {segment : Bytes}
    (here : tree.enterAll place trail.segments = .ok goal)
    (entered : tree.enter goal segment = .ok next) :
    tree.enterAll place (trail.turn segment).segments = .ok next := by
  have moved := (FileTree.enter_ok entered).2.2
  -- Behind the trail, a step is the last one of a longer walk.
  have behind : ∀ front, front = trail.segments →
      tree.enterAll place (front ++ [segment]) = .ok next := by
    intro front same
    rw [same, FileTree.enterAll_append, here]
    exact (FileTree.enterAll_singleton goal segment).trans entered
  rcases trail.turn_cases segment with ⟨vacuous, same⟩ | ⟨climbs, nameless, more⟩ |
    ⟨front, last, climbs, split, fewer⟩ | ⟨named, level, longer⟩
  · rw [same, here, moved, FileTree.turn_of_vacuous vacuous]
  · rw [more]
    unfold segments at behind ⊢
    rw [nameless, List.append_nil, List.replicate_succ', ← climbs]
    exact behind _ (by rw [nameless, List.append_nil, climbs])
  · have member : last ∈ trail.names := by
      rw [split]
      exact List.mem_append_right _ List.mem_cons_self
    have notUp : last ≠ up := fun same => proper.2 (same ▸ member)
    rw [fewer]
    unfold segments at here ⊢
    rw [split, ← List.append_assoc, FileTree.enterAll_append] at here
    -- The name that is taken back was the last one entered.
    cases before : tree.enterAll place (List.replicate trail.climbs up ++ front) with
    | error error =>
        rw [before] at here
        cases here
    | ok parent =>
        rw [before] at here
        have lastStep := here
        simp only [FileTree.enterAll_singleton] at lastStep
        rw [moved, climbs, FileTree.turn_up, (FileTree.enter_ok lastStep).2.2,
          FileTree.turn_name (proper.1 last member).1 notUp, List.dropLast_concat]
  · rw [longer]
    unfold segments at behind ⊢
    rw [← List.append_assoc]
    exact behind _ rfl

theorem Proper.enterAll_follow {trail : Trail} (proper : trail.Proper) {segments : List Bytes}
    (clean : ∀ segment ∈ segments, slash ∉ segment)
    (here : tree.enterAll place trail.segments = .ok next)
    (entered : tree.enterAll next segments = .ok goal) :
    tree.enterAll place (trail.follow segments).segments = .ok goal := by
  induction segments generalizing trail next with
  | nil => exact here.trans entered
  | cons segment rest ih =>
      rw [FileTree.enterAll] at entered
      cases first : tree.enter next segment with
      | error error =>
          rw [first] at entered
          cases entered
      | ok middle =>
          rw [first] at entered
          refine ih (proper.turn (clean segment List.mem_cons_self)) ?_
            (proper.enterAll_turn here first) entered
          exact fun other member => clean other (List.mem_cons_of_mem _ member)

theorem Proper.reach_spelled {trail : Trail} (proper : trail.Proper) (place : Place) :
    reach place trail.spelled.segments = reach place trail.segments := by
  rw [← reach_names, spelled, (legible_segments proper).names_ofSegments]

theorem Proper.enterAll_spelled {trail : Trail} (proper : trail.Proper)
    (start : tree.get? place = some .directory) :
    tree.enterAll place trail.spelled.segments = tree.enterAll place trail.segments := by
  unfold spelled
  by_cases nothing : trail.segments = []
  · have vacuous : ∀ segment ∈ [([] : Bytes)], isVacuous segment = true := by decide
    rw [nothing]
    exact FileTree.enterAll_all_vacuous start vacuous
  · rw [(legible_segments proper).segments_ofSegments nothing]

theorem spelled_injective {trail other : Trail} (proper : trail.Proper) (otherProper : other.Proper)
    (same : trail.spelled = other.spelled) : trail.segments = other.segments := by
  have names := congrArg Path.names same
  unfold spelled at names
  rwa [(legible_segments proper).names_ofSegments, (legible_segments otherProper).names_ofSegments]
    at names

theorem Proper.reach_deep {trail : Trail} (proper : trail.Proper) (place : Place) :
    reach place trail.segments = place.take (place.length - trail.climbs) ++ trail.names := by
  have climbed : ∀ climbs, reach place (List.replicate climbs up) =
      place.take (place.length - climbs) := by
    intro climbs
    induction climbs with
    | zero =>
        rw [Nat.sub_zero, List.take_length]
        rfl
    | succ climbs ih =>
        rw [List.replicate_succ', FileTree.reach_append, ih, FileTree.reach_cons, FileTree.turn_up,
          FileTree.reach_nil, List.dropLast_eq_take, List.length_take, List.take_take]
        congr 1
        omega
  unfold segments
  rw [FileTree.reach_append, climbed, reach_legible proper.1 proper.2]

end Trail

/-! ### Normal forms of relative paths -/

/-- What a whole path comes to: its climbs out of the start, and the names it has left in the end.
-/
def trail (path : Path) : Trail :=
  Trail.follow {} path.segments

theorem trail_proper (path : Path) : path.trail.Proper :=
  Trail.proper_start.follow fun _ member => slash_not_mem_of_mem_segments member

theorem trail_reach (path : Path) (place : Place) :
    reach place path.trail.spelled.segments = reach place path.segments := by
  rw [(trail_proper path).reach_spelled]
  exact Trail.proper_start.reach_follow
    (fun _ member => slash_not_mem_of_mem_segments member) place

/-- In every tree, a path that leads to a place is as good as its trail. -/
theorem trail_enterAll (path : Path) {tree : FileTree} {place goal : Place}
    (entered : tree.enterAll place path.segments = .ok goal) :
    tree.enterAll place path.trail.spelled.segments = .ok goal := by
  have start := FileTree.enterAll_start entered (segments_ne_nil path)
  rw [(trail_proper path).enterAll_spelled start]
  exact Trail.proper_start.enterAll_follow
    (fun _ member => slash_not_mem_of_mem_segments member) rfl entered

theorem normal_of_relative {path : Path} (relative : path.isAbsolute = false) :
    path.normal = path.trail.halved.spelled := by
  have held : ([] : List Bytes).reverse = (Trail.halved {}).segments := rfl
  unfold normal Trail.spelled
  rw [relative, Trail.walk_follow held]
  rfl

theorem normal_eq_spelled {path : Path} (relative : path.isAbsolute = false) :
    path.normal = path.trail.spelled ↔ path.trail.climbs < 2 := by
  have proper := trail_proper path
  rw [normal_of_relative relative]
  constructor
  · intro same
    have kept := congrArg List.length (Trail.spelled_injective proper.halved proper same)
    simp only [Trail.segments, Trail.halved, List.length_append, List.length_replicate] at kept
    omega
  · intro few
    unfold Trail.halved
    rw [Nat.mod_eq_of_lt few]

theorem normal_reach_iff {path : Path} (relative : path.isAbsolute = false) :
    (∀ place, reach place path.normal.segments = reach place path.segments) ↔
      path.trail.climbs < 2 := by
  have proper := trail_proper path
  constructor
  · intro same
    have ends := same (List.replicate path.trail.climbs (ofText "d").bytes)
    rw [normal_of_relative relative, proper.halved.reach_spelled, ← trail_reach,
      proper.reach_spelled, proper.halved.reach_deep, proper.reach_deep] at ends
    have depth := congrArg List.length ends
    simp only [Trail.halved, List.length_append, List.length_take, List.length_replicate] at depth
    omega
  · intro few place
    rw [(normal_eq_spelled relative).mpr few, trail_reach]

/-- A path seen from a relative directory leads where its trail leads: all climbs out of the start
first, then the names that are left. The normal form has the names of the trail but only the odd one
of its climbs, so it is the trail, and leads to the same place from everywhere, exactly as long as
there is one such climb at most. -/
theorem anchor_climbs (base path : Path) (baseRelative : base.isAbsolute = false)
    (relative : path.isAbsolute = false) :
    base.anchor path = (base.join path).trail.halved.spelled ∧
      (∀ place, reach place (base.join path).trail.spelled.segments =
        reach place (base.join path).segments) ∧
      (∀ (tree : FileTree) place goal,
        tree.enterAll place (base.join path).segments = .ok goal →
          tree.enterAll place (base.join path).trail.spelled.segments = .ok goal) ∧
      (base.anchor path = (base.join path).trail.spelled ↔ (base.join path).trail.climbs < 2) ∧
      ((∀ place, reach place (base.anchor path).segments = reach place (base.join path).segments) ↔
        (base.join path).trail.climbs < 2) := by
  have joined : (base.join path).isAbsolute = false := by
    rw [isAbsolute_join, relative, baseRelative, Bool.or_false]
  refine ⟨normal_of_relative joined, trail_reach _, ?_, normal_eq_spelled joined,
    normal_reach_iff joined⟩
  intro tree place goal entered
  exact trail_enterAll _ entered

/-- One climb leads out of the start, and it is kept. -/
theorem loneClimb_kept :
    (ofText "a").anchor (ofText "../.././b//c/../d") = ofText "../b/d" ∧
      ∀ place, reach place ((ofText "a").anchor (ofText "../.././b//c/../d")).segments =
        reach place ((ofText "a").join (ofText "../.././b//c/../d")).segments := by
  obtain ⟨_, _, _, spelled, reached⟩ :=
    anchor_climbs (ofText "a") (ofText "../.././b//c/../d") (by decide +kernel) (by decide +kernel)
  have few : ((ofText "a").join (ofText "../.././b//c/../d")).trail.climbs < 2 := by decide +kernel
  refine ⟨(spelled.mpr few).trans ?_, reached.mpr few⟩
  decide +kernel

/-- Two climbs out of the start leave nothing, which is a path to the start itself. -/
theorem twoClimbs_lost :
    empty.anchor (ofText "../..") = empty ∧
      (empty.join (ofText "../..")).trail = { climbs := 2, names := [] } ∧
      (empty.join (ofText "../..")).trail.spelled = ofText "../.." ∧
      reach [(ofText "u").bytes, (ofText "v").bytes] (empty.anchor (ofText "../..")).segments ≠
        reach [(ofText "u").bytes, (ofText "v").bytes] (empty.join (ofText "../..")).segments := by
  decide +kernel

end CompilerDriver.Path
