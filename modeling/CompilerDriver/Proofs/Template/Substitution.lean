import CompilerDriver.Proofs.Template

/-!
Filling a template. The stem takes the place of the first placeholder and nothing else changes, so
the parts around it can be taken off again: two sources go to the same file exactly when they have
the same stem. Whether a template can be filled does not depend on the stem.
-/

namespace CompilerDriver.Template

open Text.Utf8

variable {template : String} {source : Path} {before after : List Char}

/-- What stands before a placeholder and what stands behind it, when no placeholder begins earlier.
-/
structure Parted (chars before after : List Char) : Prop where
  spelled : chars = before ++ placeholder ++ after
  first : ∀ front back, chars = front ++ placeholder ++ back → before.length ≤ front.length

theorem Parted.unique {chars otherBefore otherAfter : List Char}
    (parted : Parted chars before after) (other : Parted chars otherBefore otherAfter) :
    otherBefore = before ∧ otherAfter = after := by
  have lengths := Nat.le_antisymm (other.first _ _ parted.spelled) (parted.first _ _ other.spelled)
  have same := other.spelled.symm.trans parted.spelled
  rw [List.append_assoc, List.append_assoc] at same
  obtain ⟨fronts, rest⟩ := List.append_inj same lengths
  exact ⟨fronts, List.append_cancel_left rest⟩

theorem parted_of_cut? {chars : List Char} (parts : cut? chars = some (before, after)) :
    Parted chars before after := by
  refine ⟨split_of_cut? parts, ?_⟩
  induction chars using cut?.induct generalizing before after with
  | case1 => cases parts
  | case2 rest =>
      cases parts
      exact fun front back _ => Nat.zero_le _
  | case3 char rest other ih =>
      rw [cut?] at parts
      · obtain ⟨⟨restBefore, restAfter⟩, found, same⟩ := Option.map_eq_some_iff.mp parts
        cases same
        intro front back split
        cases front with
        | nil =>
            -- Here a placeholder would begin at once, and the search would have stopped at it.
            have letters := List.cons.inj split
            exact absurd letters.2 (other _ letters.1)
        | cons letter restFront =>
            exact Nat.succ_le_succ (ih found restFront back (List.cons.inj split).2)
      · exact other

theorem cut?_eq_some_iff {chars : List Char} :
    cut? chars = some (before, after) ↔ Parted chars before after := by
  constructor
  · exact parted_of_cut?
  · intro parted
    have inside : (cut? chars).isSome = true :=
      (cut?_isSome_iff chars).mpr ⟨before, after, parted.spelled.symm⟩
    obtain ⟨⟨front, back⟩, found⟩ := Option.isSome_iff_exists.mp inside
    obtain ⟨rfl, rfl⟩ := parted.unique (parted_of_cut? found)
    exact found

theorem validate_error_iff {error : TemplateError} :
    validate template = .error error ↔
      error = .invalidTemplate template ∧ ¬Usable template := by
  by_cases usable : Usable template
  · rw [validate_of_usable usable]
    exact iff_of_false nofun fun refused => refused.2 usable
  · rw [validate_of_unusable usable, Except.error.injEq, eq_comm]
    exact (and_iff_left usable).symm

theorem resolve_file_iff {name : String} {path : Path} :
    resolve template name = .ok (.file path) ↔
      template ≠ standardOutput ∧ ∃ before after, Parted template.toList before after ∧
        path.bytes = encodeChars before ++ encode name ++ encodeChars after := by
  obtain ⟨bytes⟩ := path
  simp only [resolve_file_iff_cut?, cut?_eq_some_iff, encodeChars_append, Path.mk.injEq]
  rfl

theorem resolve_error_iff {name : String} {error : TemplateError} :
    resolve template name = .error error ↔ validate template = .error error := by
  by_cases usable : Usable template
  · obtain ⟨target, resolved⟩ := resolve_of_usable usable name
    rw [resolved, validate_of_usable usable]
    exact iff_of_false nofun nofun
  · rw [resolve_of_unusable usable, validate_of_unusable usable, Except.error.injEq,
      Except.error.injEq]

theorem resolve_file_inj {name otherName : String} {path otherPath : Path}
    (resolved : resolve template name = .ok (.file path))
    (other : resolve template otherName = .ok (.file otherPath)) :
    path.bytes = otherPath.bytes ↔ name = otherName := by
  obtain ⟨_, before, after, parted, bytes⟩ := resolve_file_iff.mp resolved
  obtain ⟨_, front, back, otherParted, otherBytes⟩ := resolve_file_iff.mp other
  obtain ⟨rfl, rfl⟩ := parted.unique otherParted
  rw [bytes, otherBytes, List.append_left_inj, List.append_right_inj]
  exact encode_injective.eq_iff

theorem file_of_resolve {name : String} {target : Target} (file : template ≠ standardOutput)
    (resolved : resolve template name = .ok target) : ∃ path, target = .file path := by
  cases target with
  | file path => exact ⟨path, rfl⟩
  | standardOutput => exact absurd (resolve_standardOutput_iff.mp resolved) file

/-- A template is refused for every stem or for none. The dash stands for standard output. In any
other template that is not refused the stem takes the place of the first placeholder, letter for
letter, and two sources that have targets have the same target exactly when they have the same stem.
-/
theorem resolve_literal (template : String) :
    (∀ name error, resolve template name = .error error ↔ validate template = .error error) ∧
      (∀ error, validate template = .error error ↔
        error = .invalidTemplate template ∧ template ≠ "-" ∧
          ¬placeholder <:+: template.toList) ∧
      (∀ name, resolve template name = .ok .standardOutput ↔ template = "-") ∧
      (∀ name path, resolve template name = .ok (.file path) ↔
        template ≠ "-" ∧ ∃ before after, Parted template.toList before after ∧
          path.bytes = encodeChars before ++ encode name ++ encodeChars after) ∧
      (template ≠ "-" → ∀ source other target otherTarget,
        outputFor template source = .ok target → outputFor template other = .ok otherTarget →
          ∃ path otherPath, target = .file path ∧ otherTarget = .file otherPath ∧
            (path.bytes = otherPath.bytes ↔ stem source = stem other)) := by
  have refused : ∀ error, validate template = .error error ↔
      error = .invalidTemplate template ∧ template ≠ "-" ∧ ¬placeholder <:+: template.toList := by
    intro error
    rw [validate_error_iff, Usable, not_or]
    rfl
  refine ⟨fun name error => resolve_error_iff, refused, fun name => resolve_standardOutput_iff,
    fun name path => resolve_file_iff, ?_⟩
  intro file source other target otherTarget named otherNamed
  obtain ⟨name, found, resolved⟩ := outputFor_ok_iff.mp named
  obtain ⟨otherName, otherFound, otherResolved⟩ := outputFor_ok_iff.mp otherNamed
  obtain ⟨path, rfl⟩ := file_of_resolve file resolved
  obtain ⟨otherPath, rfl⟩ := file_of_resolve file otherResolved
  refine ⟨path, otherPath, rfl, rfl, ?_⟩
  rw [resolve_file_inj resolved otherResolved, found, otherFound, Except.ok.injEq]

/-- A brace in front of the first placeholder, and a second placeholder behind it. -/
def doubledBraces : String := "\x7b\x7b\x7d\x7b\x7d"

theorem doubledBraces_filled :
    resolve doubledBraces "a/\x7b\x7d" = .ok (.file (.ofText "\x7ba/\x7b\x7d\x7b\x7d")) ∧
      doubledBraces ≠ "-" ∧
      outputFor doubledBraces (.ofText "lib/a.b.ss") = .ok (.file (.ofText "\x7ba.b\x7b\x7d")) ∧
      outputFor doubledBraces (.ofText "a.ss") = .ok (.file (.ofText "\x7ba\x7b\x7d")) ∧
      stem (.ofText "lib/a.b.ss") ≠ stem (.ofText "a.ss") ∧
      (Path.ofText "\x7ba.b\x7b\x7d").bytes ≠ (Path.ofText "\x7ba\x7b\x7d").bytes := by
  obtain ⟨_, _, _, files, collisions⟩ := resolve_literal doubledBraces
  have file : doubledBraces ≠ "-" := by decide
  have parted : Parted doubledBraces.toList ['\x7b'] placeholder :=
    cut?_eq_some_iff.mp (by decide +kernel)
  have named : outputFor doubledBraces (.ofText "lib/a.b.ss") =
      .ok (.file (.ofText "\x7ba.b\x7b\x7d")) := by decide +kernel
  have other : outputFor doubledBraces (.ofText "a.ss") =
      .ok (.file (.ofText "\x7ba\x7b\x7d")) := by decide +kernel
  have different : stem (.ofText "lib/a.b.ss") ≠ stem (.ofText "a.ss") := by decide +kernel
  obtain ⟨_, _, same, otherSame, collide⟩ := collisions file _ _ _ _ named other
  cases same
  cases otherSame
  exact ⟨(files _ _).mpr ⟨file, _, _, parted, by decide +kernel⟩, file, named, other, different,
    fun clash => different (collide.mp clash)⟩

end CompilerDriver.Template
