import CompilerDriver.Proofs.Template.Stem
import CompilerDriver.Proofs.Template.Substitution

/-!
Where a stem can lead. A stem is put into its template as it is, and of a name that has only dots in
front of its extension these dots are left. So a target keeps to the directories of its template,
but for a stem of one dot or two that stands alone between slashes, and for a single dot that meets
one more.
-/

namespace CompilerDriver.Template

open Text.Utf8
open FileTree (reach)

variable {template : String} {source path : Path} {before after : List Char} {name : String}

theorem encode_dot : encode "." = Path.here := by
  decide +kernel

theorem encode_dots : encode ".." = Path.up := by
  decide +kernel

theorem stem_nameless_iff
    (small : ∀ char ∈ name.toList, char.toNat < 0x80 ∧ char.toNat ≠ 0)
    (someBytes : encode name ≠ [])
    (nameless : Path.isVacuous (encode name) = true ∨ encode name = Path.up) :
    stem source = .ok name ↔ ∃ extension,
      source.names.getLast? = some (encode name ++ Path.dot :: extension) ∧
        encode name ++ Path.dot :: extension ≠ Path.up ∧ Path.dot ∉ extension := by
  rw [stem_ok_iff]
  constructor
  · rintro ⟨whole, kept, last, level, stripped, same⟩
    have own : kept = encode name := (lossy_eq_iff small).mp same.symm
    cases stripped with
    | whole plain =>
        subst own
        rcases nameless with vacuous | climb
        · have named := (Path.legible_names source _ (List.mem_of_getLast? last)).1
          rw [vacuous] at named
          cases named
        · exact absurd climb level
    | cut inner dotless =>
        subst own
        exact ⟨_, last, level, dotless⟩
  · rintro ⟨extension, last, level, dotless⟩
    refine ⟨_, _, last, level, .cut ?_ dotless, ((lossy_eq_iff small).mpr rfl).symm⟩
    rw [List.tail_append_of_ne_nil someBytes]
    exact List.mem_append_right _ List.mem_cons_self

theorem stem_dot_iff :
    stem source = .ok "." ↔ ∃ extension,
      source.names.getLast? = some (Path.up ++ extension) ∧ extension ≠ [] ∧
        Path.dot ∉ extension := by
  rw [stem_nameless_iff (by simp) (by decide +kernel) (Or.inl (by decide +kernel)), encode_dot]
  constructor
  · rintro ⟨extension, last, level, dotless⟩
    refine ⟨extension, last, ?_, dotless⟩
    rintro rfl
    exact level rfl
  · rintro ⟨extension, last, more, dotless⟩
    refine ⟨extension, last, ?_, dotless⟩
    intro same
    have longer : Path.up ++ extension = Path.up ++ [] := same
    exact more (List.append_cancel_left longer)

theorem stem_dots_iff :
    stem source = .ok ".." ↔ ∃ extension,
      source.names.getLast? = some (Path.up ++ Path.dot :: extension) ∧ Path.dot ∉ extension := by
  rw [stem_nameless_iff (by simp) (by decide +kernel) (Or.inr encode_dots), encode_dots]
  constructor
  · rintro ⟨extension, last, _, dotless⟩
    exact ⟨extension, last, dotless⟩
  · rintro ⟨extension, last, dotless⟩
    refine ⟨extension, last, ?_, dotless⟩
    intro same
    have lengths := congrArg List.length same
    simp [Path.up] at lengths

/-- What a template puts beside the stem, up to the slashes next to it. -/
def rim (before after : List Char) : Bytes :=
  (Path.segments ⟨encodeChars before⟩).getLast?.getD [] ++
    (Path.segments ⟨encodeChars after⟩).head?.getD []

/-- With what stands beside it, the stem is a dot or two dots. -/
def Misleads (rim : Bytes) (name : String) : Prop :=
  (rim = [] ∧ (name = "." ∨ name = "..")) ∨ (rim = [Path.dot] ∧ name = ".")

theorem surrounded_dot {left right : Bytes} :
    left ++ Path.here ++ right = Path.here ∨ left ++ Path.here ++ right = Path.up ↔
      left ++ right = [] ∨ left ++ right = [Path.dot] := by
  unfold Path.here Path.up
  rcases left with _ | ⟨first, _ | ⟨second, rest⟩⟩ <;> rcases right with _ | ⟨next, others⟩ <;>
    simp

theorem surrounded_dots {left right : Bytes} :
    left ++ Path.up ++ right = Path.here ∨ left ++ Path.up ++ right = Path.up ↔
      left ++ right = [] := by
  unfold Path.here Path.up
  rcases left with _ | ⟨first, _ | ⟨second, rest⟩⟩ <;> rcases right with _ | ⟨next, others⟩ <;>
    simp

theorem own_misleads_iff (someBytes : encode name ≠ []) :
    own before after name = Path.here ∨ own before after name = Path.up ↔
      Misleads (rim before after) name := by
  by_cases dot : name = "."
  · subst dot
    unfold own rim Misleads
    rw [encode_dot, surrounded_dot]
    simp
  · by_cases dots : name = ".."
    · subst dots
      unfold own rim Misleads
      rw [encode_dots, surrounded_dots]
      simp
    · obtain ⟨named, level⟩ := own_proper before after someBytes dot dots
      refine iff_of_false ?_ ?_
      · rintro (here | climb)
        · rw [here] at named
          cases named
        · exact level climb
      · rintro (⟨_, here | climb⟩ | ⟨_, here⟩)
        · exact dot here
        · exact dots climb
        · exact dot here

def hole : String := "\x7b\x7d"

theorem segments_template (parted : Parted template.toList before after) :
    (Path.ofText template).segments = front before ++ own before after hole :: back after := by
  have clean : Path.slash ∉ encode hole := by decide +kernel
  have filled := segments_filled before after clean
  have spelled : template.toList = before ++ hole.toList ++ after := parted.spelled
  unfold Path.ofText encode
  rw [spelled]
  exact filled

theorem hole_named (before after : List Char) :
    Path.isVacuous (own before after hole) = false :=
  (own_proper before after (by decide +kernel) (by decide) (by decide)).1

/-- A target goes through the directories of its template, to the same depth: one name is another,
and no segment has come to be vacuous or a climb. -/
structure KeepsTo (template path : Path) : Prop where
  level : Path.up ∉ path.segments
  plain : Path.here ∈ path.segments → Path.here ∈ template.segments
  rooted : path.isAbsolute = template.isAbsolute
  along : ∃ front whole own back, encode hole <:+: whole ∧
    template.names = front ++ whole :: back ∧ path.names = front ++ own :: back
  reached : ∀ place, reach place path.names = place ++ path.names

theorem KeepsTo.depth {template : Path} (keeps : KeepsTo template path) :
    path.names.length = template.names.length := by
  obtain ⟨front, whole, own, back, _, before, after⟩ := keeps.along
  rw [before, after, List.length_append, List.length_append, List.length_cons, List.length_cons]

theorem keepsTo_of_proper (parted : Parted template.toList before after)
    (level : Path.up ∉ (Path.ofText template).segments)
    (segments : path.segments = front before ++ own before after name :: back after)
    (named : Path.isVacuous (own before after name) = false)
    (ahead : own before after name ≠ Path.up) : KeepsTo (Path.ofText template) path := by
  have spelled := segments_template parted
  have others : ∀ segment ∈ path.segments, segment ≠ own before after name →
      segment ∈ (Path.ofText template).segments := by
    intro segment member other
    rw [segments] at member
    rw [spelled]
    rcases List.mem_append.mp member with early | late
    · exact List.mem_append_left _ early
    · exact List.mem_append_right _
        (List.mem_cons_of_mem _ ((List.mem_cons.mp late).resolve_left other))
  have climbless : Path.up ∉ path.segments := fun climb => level (others _ climb ahead.symm)
  obtain ⟨someBytes, notHere⟩ := Path.isVacuous_eq_false_iff.mp named
  have someHole := (Path.isVacuous_eq_false_iff.mp (hole_named before after)).1
  refine ⟨climbless, fun here => others _ here notHere.symm, ?_, ?_, ?_⟩
  · rw [Path.isAbsolute_of_segments segments someBytes,
      Path.isAbsolute_of_segments spelled someHole]
  · refine ⟨_, own before after hole, own before after name, _, ?_,
      Path.names_of_segments spelled (hole_named before after),
      Path.names_of_segments segments named⟩
    exact ⟨_, _, rfl⟩
  · exact Path.reach_legible (Path.legible_names path)
      fun climb => climbless (List.mem_filter.mp climb).1

theorem not_keepsTo_of_here (parted : Parted template.toList before after)
    (segments : path.segments = front before ++ own before after name :: back after)
    (here : own before after name = Path.here) : ¬KeepsTo (Path.ofText template) path := by
  intro keeps
  have depth := keeps.depth
  rw [Path.names_of_segments (segments_template parted) (hole_named before after)] at depth
  unfold Path.names at depth
  rw [segments, here, List.filter_append, List.filter_cons_of_neg (by decide), List.length_append,
    List.length_append, List.length_cons] at depth
  omega

/-- A target keeps to a template without climbs unless its stem misleads it. -/
theorem keepsTo_iff (parted : Parted template.toList before after)
    (level : Path.up ∉ (Path.ofText template).segments) (someBytes : encode name ≠ [])
    (segments : path.segments = front before ++ own before after name :: back after) :
    KeepsTo (Path.ofText template) path ↔ ¬Misleads (rim before after) name := by
  rw [← own_misleads_iff someBytes, not_or]
  constructor
  · intro keeps
    refine ⟨fun here => not_keepsTo_of_here parted segments here keeps, ?_⟩
    intro climb
    refine keeps.level ?_
    rw [segments, climb]
    exact List.mem_append_right _ List.mem_cons_self
  · rintro ⟨notHere, ahead⟩
    refine keepsTo_of_proper parted level segments ?_ ahead
    have inside : own before after name ≠ [] := by
      intro nothing
      exact someBytes (List.append_eq_nil_iff.mp (List.append_eq_nil_iff.mp nothing).1).2
    exact Path.isVacuous_eq_false_iff.mpr ⟨inside, notHere⟩

/-- A stem has a letter and no slash. It is a dot, or two dots, exactly for the names that have just
these dots in front of their extension. In a template without climbs no other stem can lead out of
the directories that are spelled there; one of these does so exactly when it stands alone between
slashes, or is a single dot beside one more. -/
theorem stem_redirects (source : Path) (name : String) (found : stem source = .ok name) :
    name ≠ "" ∧ '/' ∉ name.toList ∧
      (name = "." ↔ ∃ extension, source.spelledNames.getLast? = some (Path.up ++ extension) ∧
        extension ≠ [] ∧ Path.dot ∉ extension) ∧
      (name = ".." ↔ ∃ extension,
        source.spelledNames.getLast? = some (Path.up ++ Path.dot :: extension) ∧
          Path.dot ∉ extension) ∧
      ∀ template path, outputFor template source = .ok (.file path) →
        Path.up ∉ (Path.ofText template).segments →
          ∃ before after, Parted template.toList before after ∧
            (KeepsTo (Path.ofText template) path ↔ ¬Misleads (rim before after) name) := by
  have stems : ∀ other, stem source = .ok other ↔ name = other := by
    intro other
    rw [found, Except.ok.injEq]
  rw [← Path.names_eq_spelledNames]
  refine ⟨stem_ne_empty found, slash_not_mem_stem found, (stems _).symm.trans stem_dot_iff,
    (stems _).symm.trans stem_dots_iff, ?_⟩
  intro template path named level
  obtain ⟨before, after, ownName, placed⟩ := placed_of_outputFor named
  have same : ownName = name := (Except.ok.inj (found.symm.trans placed.stem)).symm
  subst same
  have parted := parted_of_cut? placed.cut
  exact ⟨before, after, parted, keepsTo_iff parted level (stem_proper found).1 placed.segments⟩

/-- The placeholder as a directory, and a source whose stem begins with two dots but has a letter.
-/
theorem dottedLetter_kept :
    stem (.ofText "lib/..a.ss") = .ok "..a" ∧
      Path.up ∉ (Path.ofText "out/\x7b\x7d/m.wasm").segments ∧
      KeepsTo (.ofText "out/\x7b\x7d/m.wasm") (.ofText "out/..a/m.wasm") := by
  have found : stem (.ofText "lib/..a.ss") = .ok "..a" := by decide +kernel
  have level : Path.up ∉ (Path.ofText "out/\x7b\x7d/m.wasm").segments := by decide +kernel
  have named : outputFor "out/\x7b\x7d/m.wasm" (.ofText "lib/..a.ss") =
      .ok (.file (.ofText "out/..a/m.wasm")) := by decide +kernel
  obtain ⟨before, after, _, keeps⟩ :=
    (stem_redirects (.ofText "lib/..a.ss") "..a" found).2.2.2.2 _ _ named level
  refine ⟨found, level, keeps.mpr ?_⟩
  rintro (⟨_, dot | dots⟩ | ⟨_, dot⟩)
  · exact absurd dot (by decide)
  · exact absurd dots (by decide)
  · exact absurd dot (by decide)

/-- The stem of three dots is two dots, so the module goes beside the directory that the template
spells, not below it. -/
theorem threeDots_escape :
    stem (.ofText "...") = .ok ".." ∧
      Path.here ∉ (Path.ofText "out/\x7b\x7d/m.wasm").segments ∧
      Path.up ∉ (Path.ofText "out/\x7b\x7d/m.wasm").segments ∧
      outputFor "out/\x7b\x7d/m.wasm" (.ofText "...") = .ok (.file (.ofText "out/../m.wasm")) ∧
      Path.up ∈ (Path.ofText "out/../m.wasm").segments ∧
      reach [] (Path.ofText "out/../m.wasm").names = (Path.ofText "m.wasm").names ∧
      ¬KeepsTo (.ofText "out/\x7b\x7d/m.wasm") (.ofText "out/../m.wasm") := by
  have climbs : Path.up ∈ (Path.ofText "out/../m.wasm").segments := by decide +kernel
  exact ⟨by decide +kernel, by decide +kernel, by decide +kernel, by decide +kernel, climbs,
    by decide +kernel, fun keeps => keeps.level climbs⟩

end CompilerDriver.Template
