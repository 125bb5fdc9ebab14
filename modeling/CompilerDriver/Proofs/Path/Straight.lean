import CompilerDriver.Proofs.Path.Normal
import CompilerDriver.Proofs.Text.Utf8

/-!
Absolute paths along which nothing stays and nothing climbs, and the paths below them. Such a path
need not be a normal form, because slashes may stand in it that add nothing; but its normal form has
all its names, and what leads on from it is another one.
-/

namespace CompilerDriver.Path

open FileTree (reach)

/-- A path from the root whose segments neither stay where they are nor climb. -/
structure IsStraight (path : Path) : Prop where
  absolute : path.isAbsolute = true
  moving : here ∉ path.segments
  level : up ∉ path.segments

instance (path : Path) : Decidable path.IsStraight :=
  decidable_of_iff (path.isAbsolute = true ∧ here ∉ path.segments ∧ up ∉ path.segments)
    ⟨fun straight => ⟨straight.1, straight.2.1, straight.2.2⟩,
      fun straight => ⟨straight.absolute, straight.moving, straight.level⟩⟩

/-- A path that leads on from wherever it is followed: it has a name, and it neither stays nor
climbs. -/
structure IsOnward (path : Path) : Prop where
  relative : path.isAbsolute = false
  named : path.names ≠ []
  moving : here ∉ path.segments
  level : up ∉ path.segments

/-- A path that has all names of another one first, then some of its own that do not climb. -/
def IsBelow (path root : Path) : Prop :=
  path.isAbsolute = root.isAbsolute ∧
    ∃ further, further ≠ [] ∧ up ∉ further ∧ path.names = root.names ++ further

variable {path root further : Path}

theorem up_not_mem_names (level : up ∉ path.segments) : up ∉ path.names := by
  intro climb
  exact level (List.mem_filter.mp climb).1

theorem mem_segments_join (base : Path) (relative : further.isAbsolute = false) {segment : Bytes}
    (someBytes : segment ≠ []) :
    segment ∈ (base.join further).segments ↔
      segment ∈ base.segments ∨ segment ∈ further.segments := by
  unfold join
  rw [if_neg (by simp [relative])]
  obtain ⟨left⟩ := base
  obtain ⟨right⟩ := further
  unfold segments
  rcases List.eq_nil_or_concat left with rfl | ⟨front, last, rfl⟩
  · simp [isEmpty, splitAt, someBytes]
  · rw [List.concat_eq_append]
    by_cases closed : last = slash
    · subst last
      have leftSplit : splitAt slash (front ++ [slash]) = splitAt slash front ++ [[]] :=
        splitAt_separated front []
      have whole : splitAt slash (front ++ [slash] ++ right) =
          splitAt slash front ++ splitAt slash right := by
        rw [List.append_assoc]
        exact splitAt_separated front right
      rw [if_pos (by simp), whole, leftSplit]
      simp [someBytes]
    · rw [if_neg (by simp [isEmpty, closed]), splitAt_separated, List.mem_append]

theorem IsOnward.isAbsolute_join (onward : further.IsOnward) (base : Path) :
    (base.join further).isAbsolute = base.isAbsolute := by
  rw [Path.isAbsolute_join, onward.relative, Bool.false_or]

/-- What leads on takes nothing from a path and adds nothing that could bend it. -/
theorem IsOnward.isStraight_join_iff (onward : further.IsOnward) (base : Path) :
    (base.join further).IsStraight ↔ base.IsStraight := by
  have hereIff : here ∈ (base.join further).segments ↔ here ∈ base.segments := by
    rw [mem_segments_join base onward.relative (by decide)]
    exact or_iff_left onward.moving
  have upIff : up ∈ (base.join further).segments ↔ up ∈ base.segments := by
    rw [mem_segments_join base onward.relative (by decide)]
    exact or_iff_left onward.level
  constructor
  · rintro ⟨absolute, moving, level⟩
    exact ⟨(onward.isAbsolute_join base).symm.trans absolute,
      fun stays => moving (hereIff.mpr stays), fun climbs => level (upIff.mpr climbs)⟩
  · rintro ⟨absolute, moving, level⟩
    exact ⟨(onward.isAbsolute_join base).trans absolute,
      fun stays => moving (hereIff.mp stays), fun climbs => level (upIff.mp climbs)⟩

theorem IsOnward.isBelow_join (onward : further.IsOnward) (base : Path) :
    (base.join further).IsBelow base :=
  ⟨onward.isAbsolute_join base, further.names, onward.named, up_not_mem_names onward.level,
    names_join base onward.relative⟩

theorem IsBelow.trans {middle : Path} (lower : path.IsBelow middle) (upper : middle.IsBelow root) :
    path.IsBelow root := by
  obtain ⟨lowerAbsolute, behind, someBehind, behindLevel, lowerNames⟩ := lower
  obtain ⟨upperAbsolute, between, _, betweenLevel, upperNames⟩ := upper
  refine ⟨lowerAbsolute.trans upperAbsolute, between ++ behind, ?_, ?_, ?_⟩
  · exact fun nothing => someBehind (List.append_eq_nil_iff.mp nothing).2
  · intro climb
    rcases List.mem_append.mp climb with first | second
    · exact betweenLevel first
    · exact behindLevel second
  · rw [lowerNames, upperNames, List.append_assoc]

theorem isOnward_ofText {text : String} (someText : text ≠ "")
    (undotted : text.toList.head? ≠ some '.') (clean : '/' ∉ text.toList) :
    (ofText text).IsOnward := by
  have noSlash : slash ∉ Text.Utf8.encode text := by
    intro member
    exact clean (Text.Utf8.encodeChars_small (by decide) member)
  have whole : (ofText text).segments = [Text.Utf8.encode text] := splitAt_of_not_mem noSlash
  -- Whatever is spelled otherwise in characters is spelled otherwise in bytes.
  have other : ∀ word, text ≠ word → Text.Utf8.encode text ≠ Text.Utf8.encode word :=
    fun word apart same => apart (Text.Utf8.encode_injective same)
  have notHere : Text.Utf8.encode text ≠ here := by
    refine other "." ?_
    rintro rfl
    exact undotted rfl
  have notUp : Text.Utf8.encode text ≠ up := by
    refine other ".." ?_
    rintro rfl
    exact undotted rfl
  have someBytes : Text.Utf8.encode text ≠ [] := other "" someText
  refine ⟨?_, ?_, ?_, ?_⟩
  · apply Bool.eq_false_iff.mpr
    intro absolute
    obtain ⟨next, others, split⟩ := (isAbsolute_iff _).mp absolute
    rw [whole] at split
    exact absurd (congrArg List.length split) (by simp)
  · unfold names
    have proper := isVacuous_eq_false_iff.mpr ⟨someBytes, notHere⟩
    rw [whole, List.filter_cons_of_pos (by simp [proper])]
    exact List.cons_ne_nil _ _
  · rw [whole, List.mem_singleton]
    exact notHere.symm
  · rw [whole, List.mem_singleton]
    exact notUp.symm

theorem IsNormal.isStraight (normal : path.IsNormal) : path.IsStraight := by
  obtain ⟨next, others, split⟩ := (isAbsolute_iff path).mp normal.absolute
  rcases normal.plain with rfl | plain
  · exact ⟨normal.absolute, by decide, by decide⟩
  · rw [split, List.tail_cons] at plain
    refine ⟨normal.absolute, ?_, ?_⟩
    · rw [split]
      intro stays
      rcases List.mem_cons.mp stays with impossible | later
      · cases impossible
      · exact (plain here later).2.1 rfl
    · rw [split]
      intro climbs
      rcases List.mem_cons.mp climbs with impossible | later
      · cases impossible
      · exact (plain up later).2.2 rfl

variable {base : Path}

theorem isNormal_anchor (absolute : base.isAbsolute = true) (path : Path) :
    (base.anchor path).IsNormal := by
  obtain ⟨legible, level⟩ := legible_course base path
  rw [anchor_of_absolute absolute]
  exact isNormal_ofPlace legible level

theorem anchor_elsewhere (absolute : path.isAbsolute = true) (base other : Path) :
    base.anchor path = other.anchor path := by
  unfold anchor
  rw [join_of_absolute base absolute, join_of_absolute other absolute]

theorem anchor_anchored (absolute : base.isAbsolute = true) (path other : Path) :
    other.anchor (base.anchor path) = base.anchor path := by
  obtain ⟨legible, level⟩ := legible_course base path
  rw [anchor_of_absolute absolute, anchor, join_of_absolute other (isAbsolute_ofPlace _),
    normal_ofPlace legible level]

theorem map_anchor_anchored (absolute : base.isAbsolute = true) (other : Path)
    (path : Option Path) : (path.map base.anchor).map other.anchor = path.map base.anchor := by
  cases path with
  | none => rfl
  | some path => exact congrArg some (anchor_anchored absolute path other)

theorem IsStraight.names_anchor (straight : path.IsStraight) (base : Path) :
    (base.anchor path).names = path.names := by
  have legible := legible_names path
  unfold anchor
  rw [join_of_absolute base straight.absolute, normal_of_absolute straight.absolute,
    reach_legible legible (up_not_mem_names straight.level), List.nil_append, legible.names_ofPlace]

theorem IsBelow.anchor (below : path.IsBelow root) (straight : path.IsStraight)
    (absolute : base.isAbsolute = true) : (base.anchor path).IsBelow root := by
  obtain ⟨rooted, names⟩ := below
  refine ⟨?_, ?_⟩
  · rw [(isNormal_anchor absolute path).absolute, ← rooted, straight.absolute]
  · rw [straight.names_anchor base]
    exact names

end CompilerDriver.Path
