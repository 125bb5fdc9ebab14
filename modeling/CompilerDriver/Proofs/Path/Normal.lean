import CompilerDriver.Proofs.FileTree.Walk
import CompilerDriver.Proofs.Path.Segments

/-!
Lexical normal forms. A path that is seen from an absolute directory is normalized to the place
where a walk along it from the root ends. So a path may be normalized in any number of steps: a
normal form stays as it is, and what is joined to a path may as well be followed from its normal
form. The text of a normal form can also be made without a list of names, by joins and parents
alone.
-/

namespace CompilerDriver.Path

open FileTree (turn reach)

variable {separator : UInt8}

theorem splitAt_separated (left right : Bytes) :
    splitAt separator (left ++ separator :: right) =
      splitAt separator left ++ splitAt separator right := by
  rcases List.eq_nil_or_concat (splitAt separator left) with nothing | ⟨front, last, split⟩
  · exact absurd nothing (splitAt_ne_nil separator left)
  · rw [List.concat_eq_append] at split
    rw [splitAt_append split (splitAt_cons_self right), List.append_nil, split, List.append_assoc]
    rfl

theorem names_separated (left right : Bytes) :
    names ⟨left ++ slash :: right⟩ = names ⟨left⟩ ++ names ⟨right⟩ := by
  unfold names segments
  rw [splitAt_separated, List.filter_append]

@[simp] theorem names_empty : names ⟨[]⟩ = [] := rfl

theorem join_of_absolute (base : Path) {path : Path} (absolute : path.isAbsolute = true) :
    base.join path = path :=
  if_pos absolute

theorem names_join (base : Path) {path : Path} (relative : path.isAbsolute = false) :
    (base.join path).names = base.names ++ path.names := by
  unfold join
  rw [if_neg (by simp [relative])]
  obtain ⟨left⟩ := base
  obtain ⟨right⟩ := path
  rcases List.eq_nil_or_concat left with rfl | ⟨front, last, rfl⟩
  · rfl
  · rw [List.concat_eq_append]
    by_cases closed : last = slash
    · subst last
      rw [if_pos (by simp), names_separated front [], names_empty, List.append_nil,
        List.append_assoc]
      exact names_separated front right
    · rw [if_neg (by simp [isEmpty, closed])]
      exact names_separated _ right

theorem isAbsolute_join (base path : Path) :
    (base.join path).isAbsolute = (path.isAbsolute || base.isAbsolute) := by
  cases absolute : path.isAbsolute with
  | true => rw [join_of_absolute base absolute, absolute, Bool.true_or]
  | false =>
      unfold join
      rw [if_neg (by simp [absolute]), Bool.false_or]
      obtain ⟨left⟩ := base
      cases left with
      | nil => exact absolute
      | cons byte rest => split <;> rfl

/-- Segments that are kept by a normal form. -/
def Legible (segments : List Bytes) : Prop :=
  ∀ segment ∈ segments, isVacuous segment = false ∧ slash ∉ segment

theorem legible_names (path : Path) : Legible path.names := by
  intro name member
  obtain ⟨inside, named⟩ := List.mem_filter.mp member
  exact ⟨by simpa using named, slash_not_mem_of_mem_segments inside⟩

theorem Legible.segments_ofSegments {segments : List Bytes} (kept : Legible segments)
    (someSegments : segments ≠ []) : (ofSegments segments).segments = segments :=
  Path.segments_ofSegments someSegments fun segment member => (kept segment member).2

theorem Legible.names_ofSegments {segments : List Bytes} (kept : Legible segments) :
    (ofSegments segments).names = segments := by
  by_cases someSegments : segments = []
  · rw [someSegments]
    rfl
  · unfold names
    rw [kept.segments_ofSegments someSegments, List.filter_eq_self]
    intro segment member
    simp [(kept segment member).1]

def ofPlace (place : Place) : Path :=
  ⟨slash :: joinWith slash place⟩

@[simp] theorem isAbsolute_ofPlace (place : Place) : (ofPlace place).isAbsolute = true := rfl

theorem Legible.names_ofPlace {place : Place} (kept : Legible place) : (ofPlace place).names = place := by
  have apart := names_separated [] (joinWith slash place)
  rw [names_empty, List.nil_append] at apart
  exact apart.trans kept.names_ofSegments

theorem Legible.segments_ofPlace {place : Place} (kept : Legible place) (inside : place ≠ []) :
    (ofPlace place).segments = [] :: place := by
  have apart : (ofPlace place).segments = [[]] ++ (ofSegments place).segments :=
    splitAt_separated [] (joinWith slash place)
  rw [apart, kept.segments_ofSegments inside]
  rfl

theorem reach_names (place : Place) (path : Path) :
    reach place path.names = reach place path.segments :=
  FileTree.reach_filter place path.segments

theorem legible_turn {place : Place} {segment : Bytes} (kept : Legible place ∧ up ∉ place)
    (clean : slash ∉ segment) : Legible (turn place segment) ∧ up ∉ turn place segment := by
  unfold turn
  split
  case isTrue => exact kept
  case isFalse named =>
    split
    case isTrue =>
      exact ⟨fun name member => kept.1 name (List.dropLast_subset _ member),
        fun climb => kept.2 (List.dropLast_subset _ climb)⟩
    case isFalse level =>
      constructor
      · intro name member
        rcases List.mem_append.mp member with old | new
        · exact kept.1 name old
        · rw [List.mem_singleton.mp new]
          exact ⟨by simpa using named, clean⟩
      · intro climb
        rcases List.mem_append.mp climb with old | new
        · exact kept.2 old
        · exact level (List.mem_singleton.mp new).symm

theorem legible_reach {place : Place} {segments : List Bytes} (kept : Legible place ∧ up ∉ place)
    (clean : ∀ segment ∈ segments, slash ∉ segment) :
    Legible (reach place segments) ∧ up ∉ reach place segments := by
  induction segments generalizing place with
  | nil => exact kept
  | cons segment rest ih =>
      have first := legible_turn kept (clean segment List.mem_cons_self)
      exact ih first fun other member => clean other (List.mem_cons_of_mem _ member)

theorem reach_legible {segments : List Bytes} (kept : Legible segments) (level : up ∉ segments)
    (place : Place) : reach place segments = place ++ segments := by
  induction segments generalizing place with
  | nil => exact (List.append_nil place).symm
  | cons segment rest ih =>
      have named := (kept segment List.mem_cons_self).1
      have other : segment ≠ up := fun climb => level (climb ▸ List.mem_cons_self)
      have restKept : Legible rest := fun name member => kept name (List.mem_cons_of_mem _ member)
      rw [FileTree.reach_cons, FileTree.turn_name named other,
        ih restKept fun climb => level (List.mem_cons_of_mem _ climb), List.append_assoc]
      rfl

/-! ### Normal forms -/

theorem foldl_walk_names (rooted : Bool) (kept : List Bytes) (path : Path) :
    path.segments.foldl (walk rooted) kept = path.names.foldl (walk rooted) kept := by
  unfold names
  rw [List.foldl_filter]
  congr 1
  funext before segment
  unfold walk
  cases isVacuous segment <;> rfl

theorem reverse_walk (kept : List Bytes) (segment : Bytes) :
    (walk true kept segment).reverse = turn kept.reverse segment := by
  unfold walk turn
  split
  · rfl
  · split
    · cases kept with
      | nil => rfl
      | cons name rest => rw [List.reverse_cons, List.dropLast_concat]
    · exact List.reverse_cons

theorem reverse_foldl_walk (kept : List Bytes) (segments : List Bytes) :
    (segments.foldl (walk true) kept).reverse = reach kept.reverse segments := by
  induction segments generalizing kept with
  | nil => rfl
  | cons segment rest ih => rw [List.foldl_cons, ih, reverse_walk, FileTree.reach_cons]

theorem normal_of_absolute {path : Path} (absolute : path.isAbsolute = true) :
    path.normal = ofPlace (reach [] path.names) := by
  unfold normal ofPlace
  rw [absolute, reverse_foldl_walk, reach_names]
  rfl

theorem normal_ofPlace {place : Place} (kept : Legible place) (level : up ∉ place) :
    (ofPlace place).normal = ofPlace place := by
  rw [normal_of_absolute (isAbsolute_ofPlace place), kept.names_ofPlace, reach_legible kept level,
    List.nil_append]

/-- The segments that are walked along when a path is seen from a directory. -/
def course (base path : Path) : List Bytes :=
  if path.isAbsolute then path.segments else base.segments ++ path.segments

theorem reach_join (place : Place) (base path : Path) :
    reach place (base.join path).names = reach place (course base path) := by
  unfold course
  cases absolute : path.isAbsolute with
  | true => rw [join_of_absolute base absolute, reach_names, if_pos rfl]
  | false =>
      rw [names_join base absolute, if_neg nofun, FileTree.reach_append, FileTree.reach_append,
        reach_names, reach_names]

theorem anchor_of_absolute {base : Path} (absolute : base.isAbsolute = true) (path : Path) :
    base.anchor path = ofPlace (reach [] (course base path)) := by
  have joined : (base.join path).isAbsolute = true := by
    rw [isAbsolute_join, absolute, Bool.or_true]
  rw [anchor, normal_of_absolute joined, reach_join]

theorem legible_course (base path : Path) :
    Legible (reach [] (course base path)) ∧ up ∉ reach [] (course base path) := by
  rw [← reach_join]
  refine legible_reach ⟨nofun, List.not_mem_nil⟩ ?_
  exact fun segment member => (legible_names _ segment member).2

theorem Legible.joinWith_ne_nil {segments : List Bytes} (legible : Legible segments)
    (someSegments : segments ≠ []) : joinWith slash segments ≠ [] := by
  intro nothing
  have split := legible.segments_ofSegments someSegments
  unfold ofSegments at split
  rw [nothing] at split
  have empty : [] ∈ segments := by
    rw [← split]
    exact List.mem_cons_self
  exact absurd (legible [] empty).1 nofun

theorem Legible.getLast?_joinWith {segments : List Bytes} (legible : Legible segments) :
    (joinWith slash segments).getLast? ≠ some slash := by
  intro closed
  obtain ⟨front, bytes⟩ := List.getLast?_eq_some_iff.mp closed
  have someSegments : segments ≠ [] := by
    intro nothing
    rw [nothing] at bytes
    exact absurd bytes (by simp [joinWith])
  have split := legible.segments_ofSegments someSegments
  have apart : (ofSegments segments).segments = splitAt slash front ++ [[]] := by
    unfold ofSegments
    rw [bytes]
    exact splitAt_separated front []
  have empty : [] ∈ segments := by
    rw [← split, apart]
    exact List.mem_append_right _ List.mem_cons_self
  exact absurd (legible [] empty).1 nofun

theorem Legible.getLast?_ofPlace {place : Place} (legible : Legible place) (inside : place ≠ []) :
    (ofPlace place).bytes.getLast? ≠ some slash := by
  have closed := legible.getLast?_joinWith
  unfold ofPlace
  cases bytes : joinWith slash place with
  | nil => exact absurd bytes (legible.joinWith_ne_nil inside)
  | cons byte rest =>
      rw [bytes] at closed
      rwa [List.getLast?_cons_cons]

/-- An absolute path in which nothing stands that could be left out: no segment is empty, a dot or a
climb, and none but the root ends in a slash. -/
structure IsNormal (path : Path) : Prop where
  absolute : path.isAbsolute = true
  plain : path = ofPlace [] ∨
    ∀ segment ∈ path.segments.tail, segment ≠ [] ∧ segment ≠ here ∧ segment ≠ up
  closed : path = ofPlace [] ∨ path.bytes.getLast? ≠ some slash

theorem isNormal_ofPlace {place : Place} (legible : Legible place) (level : up ∉ place) :
    IsNormal (ofPlace place) := by
  refine ⟨rfl, ?_, ?_⟩
  · by_cases inside : place = []
    · exact Or.inl (by rw [inside])
    · refine Or.inr ?_
      intro segment member
      rw [legible.segments_ofPlace inside] at member
      obtain ⟨someBytes, notHere⟩ := isVacuous_eq_false_iff.mp (legible segment member).1
      exact ⟨someBytes, notHere, fun climb => level (climb ▸ member)⟩
  · by_cases inside : place = []
    · exact Or.inl (by rw [inside])
    · exact Or.inr (legible.getLast?_ofPlace inside)

theorem names_join_join (base path : Path) {further : Path} (relative : further.isAbsolute = false) :
    (base.join (path.join further)).names = (base.join path).names ++ further.names := by
  have behind := names_join path relative
  cases absolute : path.isAbsolute with
  | true =>
      have joined : (path.join further).isAbsolute = true := by
        rw [isAbsolute_join, absolute, Bool.or_true]
      rw [join_of_absolute base joined, join_of_absolute base absolute, behind]
  | false =>
      have joined : (path.join further).isAbsolute = false := by
        rw [isAbsolute_join, relative, absolute, Bool.or_false]
      rw [names_join base joined, names_join base absolute, behind, List.append_assoc]

theorem anchor_anchor {base : Path} (absolute : base.isAbsolute = true) (path further : Path) :
    (base.anchor path).anchor further = base.anchor (path.join further) := by
  obtain ⟨legible, level⟩ := legible_course base path
  have first := anchor_of_absolute absolute path
  have rooted : (base.anchor path).isAbsolute = true := by
    rw [first]
    rfl
  have walked : reach [] ((base.anchor path).join further).names =
      reach [] (base.join (path.join further)).names := by
    cases far : further.isAbsolute with
    | true =>
        rw [join_of_absolute _ far, join_of_absolute path far, join_of_absolute base far]
    | false =>
        rw [names_join _ far, names_join_join base path far, first, legible.names_ofPlace,
          FileTree.reach_append, FileTree.reach_append, reach_legible legible level, reach_join]
        rfl
  rw [reach_join, reach_join] at walked
  rw [anchor_of_absolute rooted further, anchor_of_absolute absolute (path.join further), walked]

/-- Seen from an absolute directory, a path is normalized to the place where the walk along its
segments ends, from the root when the path is absolute and from the directory otherwise. A normal
form is its own from everywhere, and what is joined to a path may be followed from its normal form.
-/
theorem anchor_place (base path : Path) (absolute : base.isAbsolute = true) :
    IsNormal (base.anchor path) ∧
      base.anchor path = ofPlace (reach [] (course base path)) ∧
      (∀ other : Path, other.anchor (base.anchor path) = base.anchor path) ∧
      ∀ further, (base.anchor path).anchor further = base.anchor (path.join further) := by
  obtain ⟨legible, level⟩ := legible_course base path
  have spelled := anchor_of_absolute absolute path
  refine ⟨?_, spelled, ?_, anchor_anchor absolute path⟩
  · rw [spelled]
    exact isNormal_ofPlace legible level
  · intro other
    rw [spelled, anchor, join_of_absolute other (isAbsolute_ofPlace _), normal_ofPlace legible level]

/-- More climbs than names, doubled slashes, and a dot in the middle. -/
theorem crookedPath_place :
    IsNormal ((ofText "/a//b/").anchor (ofText "../../../c/./d/../e/")) ∧
      (ofText "/a//b/").anchor (ofText "../../../c/./d/../e/") = ofText "/c/e" ∧
      ((ofText "/a//b/").anchor (ofText "../../../c/./d/../e/")).anchor (ofText "../../f") =
        ofText "/f" := by
  have absolute : (ofText "/a//b/").isAbsolute = true := by decide +kernel
  obtain ⟨normal, _, _, behind⟩ :=
    anchor_place (ofText "/a//b/") (ofText "../../../c/./d/../e/") absolute
  refine ⟨normal, by decide +kernel, ?_⟩
  rw [behind]
  decide +kernel

/-! ### Normal forms by text alone -/

/-- One more name behind a path, by its text alone. A climb leaves the parent; without a parent it
is kept, except at the root. -/
def follow (path : Path) (name : Bytes) : Path :=
  if name = up then
    match path.parent? with
    | some parent => parent
    | none => if path.isAbsolute then path else path.join ⟨name⟩
  else path.join ⟨name⟩

def spelled (rooted : Bool) (kept : List Bytes) : Path :=
  ⟨(if rooted then [slash] else []) ++ joinWith slash kept.reverse⟩

theorem joinWith_concat {front : List Bytes} (someFront : front ≠ []) (last : Bytes) :
    joinWith separator (front ++ [last]) = joinWith separator front ++ separator :: last := by
  induction front with
  | nil => exact absurd rfl someFront
  | cons first rest ih =>
      cases rest with
      | nil => rfl
      | cons next others =>
          change first ++ separator :: joinWith separator (next :: others ++ [last]) = _
          rw [ih (List.cons_ne_nil _ _)]
          simp only [joinWith, List.append_assoc, List.cons_append]

theorem Legible.reverse {segments : List Bytes} (legible : Legible segments) :
    Legible segments.reverse :=
  fun segment member => legible segment (List.mem_reverse.mp member)

theorem join_spelled {kept : List Bytes} (legible : Legible kept) (rooted : Bool) {name : Bytes}
    (clean : slash ∉ name) : (spelled rooted kept).join ⟨name⟩ = spelled rooted (name :: kept) := by
  have relative : ¬((⟨name⟩ : Path).isAbsolute = true) := by
    intro absolute
    refine clean (List.mem_of_head? ?_)
    simpa [isAbsolute] using absolute
  unfold join
  rw [if_neg relative]
  unfold spelled
  cases kept with
  | nil => cases rooted <;> rfl
  | cons last earlier =>
      have inside : (last :: earlier).reverse ≠ [] := by simp
      have text := legible.reverse.joinWith_ne_nil inside
      have closed := legible.reverse.getLast?_joinWith
      have ordered : (name :: last :: earlier).reverse = (last :: earlier).reverse ++ [name] :=
        List.reverse_cons
      rw [ordered, joinWith_concat inside]
      generalize joinWith slash (last :: earlier).reverse = bytes at text closed ⊢
      have lastByte : ((if rooted then [slash] else []) ++ bytes).getLast? = bytes.getLast? := by
        rw [List.getLast?_append]
        cases ending : bytes.getLast? with
        | none => exact absurd (List.getLast?_eq_none_iff.mp ending) text
        | some byte => rfl
      rw [if_neg, List.append_assoc]
      simp [isEmpty, lastByte, closed, text]

theorem dropLastName_legible {name : Bytes} {rest : List Bytes}
    (legible : Legible (name :: rest)) : dropLastName (name :: rest) = some rest := by
  have named := (legible name List.mem_cons_self).1
  unfold dropLastName
  rw [List.dropWhile_cons_of_neg (by simp [named])]
  cases rest with
  | nil => rfl
  | cons next others =>
      have nextNamed := (legible next (List.mem_cons_of_mem _ List.mem_cons_self)).1
      exact congrArg some (List.dropWhile_cons_of_neg (by simp [nextNamed]))

theorem parent?_spelled (rooted : Bool) {name : Bytes} {rest : List Bytes}
    (legible : Legible (name :: rest)) :
    (spelled rooted (name :: rest)).parent? = some (spelled rooted rest) := by
  have inside : (name :: rest).reverse ≠ [] := by simp
  have last := dropLastName_legible legible
  unfold parent?
  cases rooted with
  | true =>
      have split : (spelled true (name :: rest)).segments = [] :: (name :: rest).reverse :=
        legible.reverse.segments_ofPlace inside
      simp only [split, List.reverse_reverse, last, List.isEmpty_nil, Bool.true_and]
      cases ordered : rest.reverse with
      | nil =>
          rw [List.reverse_eq_nil_iff.mp ordered]
          rfl
      | cons first others =>
          have more : rest ≠ [] := by
            intro nothing
            rw [nothing] at ordered
            cases ordered
          rw [if_neg (by simpa using more)]
          unfold spelled
          rw [ordered]
          rfl
  | false =>
      have split : (spelled false (name :: rest)).segments = (name :: rest).reverse :=
        legible.reverse.segments_ofSegments inside
      rw [List.reverse_cons] at split
      cases ordered : rest.reverse with
      | nil =>
          have named := (legible name List.mem_cons_self).1
          have someBytes : name.isEmpty = false := (Bool.or_eq_false_iff.mp named).1
          have alone : dropLastName [] = none := rfl
          rw [ordered, List.nil_append] at split
          rw [List.reverse_eq_nil_iff.mp ordered] at split ⊢
          simp only [split, List.reverse_nil, alone, someBytes]
          rfl
      | cons first others =>
          have member : first ∈ name :: rest := by
            refine List.mem_cons_of_mem _ (List.mem_reverse.mp ?_)
            rw [ordered]
            exact List.mem_cons_self
          have someBytes : first.isEmpty = false := (Bool.or_eq_false_iff.mp (legible first member).1).1
          rw [ordered, List.cons_append] at split
          have subset : ∀ segment ∈ name :: others.reverse, segment ∈ name :: rest := by
            intro segment inner
            rcases List.mem_cons.mp inner with same | later
            · exact same ▸ List.mem_cons_self
            · refine List.mem_cons_of_mem _ (List.mem_reverse.mp ?_)
              rw [ordered]
              exact List.mem_cons_of_mem _ (List.mem_reverse.mp later)
          have earlier := dropLastName_legible fun segment inner => legible segment (subset segment inner)
          simp only [split, List.reverse_append, List.reverse_singleton, List.singleton_append, earlier,
            someBytes, Bool.false_and, Bool.false_eq_true, if_false, List.reverse_reverse]
          unfold spelled
          rw [ordered]
          rfl

theorem follow_spelled (rooted : Bool) {kept : List Bytes} (legible : Legible kept) {name : Bytes}
    (named : isVacuous name = false) (clean : slash ∉ name) :
    follow (spelled rooted kept) name = spelled rooted (walk rooted kept name) := by
  have proper : ¬(isVacuous name = true) := by simp [named]
  unfold follow walk
  rw [if_neg proper]
  by_cases climbs : name = up
  · rw [if_pos climbs, if_pos climbs]
    cases kept with
    | cons last rest => rw [parent?_spelled rooted legible]
    | nil =>
        subst climbs
        cases rooted <;> rfl
  · rw [if_neg climbs, if_neg climbs]
    exact join_spelled legible rooted clean

theorem legible_walk (rooted : Bool) {kept : List Bytes} (legible : Legible kept) {name : Bytes}
    (named : isVacuous name = false) (clean : slash ∉ name) : Legible (walk rooted kept name) := by
  have alone : Legible [name] := List.forall_mem_singleton.mpr ⟨named, clean⟩
  unfold walk
  rw [if_neg (by simp [named])]
  split
  case isTrue climbs =>
    cases kept with
    | cons last rest => exact fun segment member => legible segment (List.mem_cons_of_mem _ member)
    | nil =>
        rw [← climbs]
        cases rooted
        · exact alone
        · exact nofun
  case isFalse => exact List.forall_mem_cons.mpr ⟨⟨named, clean⟩, legible⟩

/-- What a walk spells is what its names make of a text when they are followed one by one. -/
theorem foldl_follow (rooted : Bool) {kept : List Bytes} (legible : Legible kept) {names : List Bytes}
    (namesLegible : Legible names) :
    names.foldl follow (spelled rooted kept) = spelled rooted (names.foldl (walk rooted) kept) := by
  induction names generalizing kept with
  | nil => rfl
  | cons name rest ih =>
      obtain ⟨named, clean⟩ := namesLegible name List.mem_cons_self
      rw [List.foldl_cons, List.foldl_cons, follow_spelled rooted legible named clean]
      exact ih (legible_walk rooted legible named clean)
        fun segment member => namesLegible segment (List.mem_cons_of_mem _ member)

theorem normal_eq_follow (path : Path) :
    path.normal = path.names.foldl follow (if path.isAbsolute then ofPlace [] else empty) := by
  have nothing : Legible [] := nofun
  have followed := foldl_follow path.isAbsolute nothing (legible_names path)
  unfold normal
  rw [foldl_walk_names]
  refine Eq.trans followed.symm ?_
  cases path.isAbsolute <;> rfl

end CompilerDriver.Path
