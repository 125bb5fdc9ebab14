import CompilerDriver.Proofs.Path.Normal
import CompilerDriver.Proofs.Template
import Mathlib.Data.List.TakeWhile

/-!
Stems of sources. The last name along a path decides its stem, and the last dot in that name decides
what is left of it. So a stem says nothing about the directory of its source, nor does it matter
what adds no name to the path.
-/

namespace CompilerDriver

namespace Path

theorem splitAt_eq_splitOn (separator : UInt8) (bytes : Bytes) :
    splitAt separator bytes = bytes.splitOn separator := by
  induction bytes with
  | nil => rfl
  | cons byte rest ih =>
      rw [List.splitOn_cons_eq_if_modifyHead, ← ih]
      by_cases same : byte = separator
      · rw [if_pos (beq_iff_eq.mpr same), same, splitAt_cons_self]
      · rw [if_neg (mt beq_iff_eq.mp same)]
        cases split : splitAt separator rest with
        | nil => exact absurd split (splitAt_ne_nil separator rest)
        | cons first others => exact splitAt_cons_other same split

/-- The parts between slashes that are neither empty nor a dot. -/
def spelledNames (path : Path) : List Bytes :=
  (path.bytes.splitOn slash).filter fun segment => decide (segment ≠ [] ∧ segment ≠ [dot])

theorem names_eq_spelledNames (path : Path) : path.names = path.spelledNames := by
  unfold names spelledNames segments
  rw [splitAt_eq_splitOn]
  congr 1
  funext segment
  rw [Bool.eq_iff_iff, Bool.not_eq_true', isVacuous_eq_false_iff, decide_eq_true_iff, here]

theorem names_trailing (path : Path) {pieces : List Bytes}
    (vacuous : ∀ piece ∈ pieces, piece = [slash] ∨ piece = [slash, dot]) :
    names ⟨path.bytes ++ pieces.flatten⟩ = path.names := by
  induction pieces generalizing path with
  | nil => rw [List.flatten_nil, List.append_nil]
  | cons piece rest ih =>
      have one : names ⟨path.bytes ++ piece⟩ = path.names := by
        rcases vacuous piece List.mem_cons_self with rfl | rfl
        · exact (names_separated path.bytes []).trans (List.append_nil _)
        · exact (names_separated path.bytes [dot]).trans (List.append_nil _)
      have later := ih ⟨path.bytes ++ piece⟩ fun other member =>
        vacuous other (List.mem_cons_of_mem _ member)
      rw [List.flatten_cons, ← List.append_assoc]
      exact later.trans one

/-- What is left of a name without its extension. A dot that is the first byte begins no extension.
-/
inductive Stripped : Bytes → Bytes → Prop where
  | whole {name : Bytes} (plain : dot ∉ name.tail) : Stripped name name
  | cut {front extension : Bytes} (inner : dot ∈ (front ++ dot :: extension).tail)
      (last : dot ∉ extension) : Stripped (front ++ dot :: extension) front

theorem dropWhile_extension {extension : Bytes} (last : dot ∉ extension) (front : Bytes) :
    (front ++ dot :: extension).reverse.dropWhile (· ≠ dot) = dot :: front.reverse := by
  have skipped : ∀ byte ∈ extension.reverse, decide (byte ≠ dot) = true := by
    intro byte member
    refine decide_eq_true ?_
    rintro rfl
    exact last (List.mem_reverse.mp member)
  rw [List.reverse_append, List.reverse_cons, List.append_assoc,
    List.dropWhile_append_of_pos skipped, List.singleton_append,
    List.dropWhile_cons_of_neg (by simp)]

theorem Stripped.nameStem_eq {name kept : Bytes} (stripped : Stripped name kept) :
    nameStem name = kept := by
  unfold nameStem
  cases stripped with
  | whole plain =>
      by_cases dotted : dot ∈ name
      · -- The only dot is the first byte, and nothing is left of the name in front of it.
        cases name with
        | nil => cases dotted
        | cons byte rest =>
            have first : byte = dot := ((List.mem_cons.mp dotted).resolve_right plain).symm
            subst first
            have dropped : (dot :: rest).reverse.dropWhile (· ≠ dot) = [dot] :=
              dropWhile_extension plain []
            rw [dropped]
            rfl
      · have absent : name.reverse.dropWhile (· ≠ dot) = [] := by
          refine List.dropWhile_eq_nil_iff.mpr ?_
          intro byte member
          refine decide_eq_true ?_
          rintro rfl
          exact dotted (List.mem_reverse.mp member)
        rw [absent]
  | @cut _ extension inner last =>
      rw [dropWhile_extension last]
      simp only
      rw [if_neg, List.reverse_reverse]
      intro nothing
      rw [List.isEmpty_iff, List.reverse_eq_nil_iff] at nothing
      subst nothing
      exact last inner

theorem stripped_nameStem (name : Bytes) : Stripped name (nameStem name) := by
  by_cases inner : dot ∈ name.tail
  · obtain ⟨later, earlier, split, last⟩ :=
      List.eq_append_cons_of_mem (List.mem_reverse.mpr (List.mem_of_mem_tail inner))
    have spelled : name = earlier.reverse ++ dot :: later.reverse := by
      rw [← List.reverse_reverse name, split, List.reverse_append, List.reverse_cons,
        List.append_assoc, List.singleton_append]
    subst spelled
    have cut : Stripped _ earlier.reverse :=
      .cut inner fun member => last (List.mem_reverse.mp member)
    rw [cut.nameStem_eq]
    exact cut
  · have whole := Stripped.whole inner
    rw [whole.nameStem_eq]
    exact whole

theorem nameStem_eq_iff {name kept : Bytes} : nameStem name = kept ↔ Stripped name kept := by
  constructor
  · rintro rfl
    exact stripped_nameStem name
  · exact Stripped.nameStem_eq

end Path

namespace Template

open Text.Utf8

variable {path : Path} {text : String}

theorem stem_ok_iff :
    stem path = .ok text ↔ ∃ name kept, path.names.getLast? = some name ∧ name ≠ Path.up ∧
      Path.Stripped name kept ∧ text = lossy kept := by
  have read : stem path = .ok text ↔ ∃ name, path.fileName? = some name ∧
      text = lossy (Path.nameStem name) := by
    rw [stem_eq]
    unfold Path.stem?
    cases path.fileName? with
    | none => simp
    | some name =>
        simp only [Option.map_some, Except.ok.injEq, Option.some.injEq, exists_eq_left', eq_comm]
  rw [read]
  constructor
  · rintro ⟨name, named, same⟩
    obtain ⟨last, level⟩ := Path.fileName?_eq_some_iff.mp named
    exact ⟨name, _, last, level, Path.nameStem_eq_iff.mp rfl, same⟩
  · rintro ⟨name, kept, last, level, stripped, same⟩
    refine ⟨name, Path.fileName?_eq_some_iff.mpr ⟨last, level⟩, ?_⟩
    rw [Path.nameStem_eq_iff.mpr stripped, same]

theorem stem_error_iff {error : TemplateError} :
    stem path = .error error ↔
      error = .invalidSource path ∧ (path.names = [] ∨ path.names.getLast? = some Path.up) := by
  have unnamed : path.fileName? = none ↔
      path.names = [] ∨ path.names.getLast? = some Path.up := by
    unfold Path.fileName?
    rw [← List.getLast?_eq_none_iff]
    cases path.names.getLast? with
    | none => simp
    | some name => simp
  rw [← unnamed]
  rw [stem_eq]
  unfold Path.stem?
  cases path.fileName? with
  | none =>
      simp only [Option.map_none, Except.error.injEq, and_true]
      exact eq_comm
  | some name => simp

theorem stem_of_getLast? {other : Path} (found : stem path = .ok text)
    (same : other.names.getLast? = path.names.getLast?) : stem other = .ok text := by
  rw [stem_ok_iff] at found ⊢
  rw [same]
  exact found

theorem stem_behind {front : List Bytes} {other : Path} (found : stem path = .ok text)
    (behind : other.names = front ++ path.names) : stem other = .ok text := by
  obtain ⟨name, _, last, _⟩ := stem_ok_iff.mp found
  refine stem_of_getLast? found ?_
  rw [behind, List.getLast?_append, last, Option.some_or]

/-- A path has a stem unless it has no names or climbs last; the stem is the last name without its
extension. It has a letter and no slash, and stays the same behind any directory and in front of
anything that adds no name. -/
theorem stem_spelled (path : Path) :
    (∀ error, stem path = .error error ↔ error = .invalidSource path ∧
        (path.spelledNames = [] ∨ path.spelledNames.getLast? = some Path.up)) ∧
      (∀ text, stem path = .ok text ↔ ∃ name kept, path.spelledNames.getLast? = some name ∧
        name ≠ Path.up ∧ Path.Stripped name kept ∧ text = lossy kept) ∧
      ∀ text, stem path = .ok text →
        text ≠ "" ∧ '/' ∉ text.toList ∧
          (∀ directory : Path, stem (directory.join path) = .ok text ∧
            stem ⟨directory.bytes ++ Path.slash :: path.bytes⟩ = .ok text) ∧
          ∀ pieces : List Bytes,
            (∀ piece ∈ pieces, piece = [Path.slash] ∨ piece = [Path.slash, Path.dot]) →
              stem ⟨path.bytes ++ pieces.flatten⟩ = .ok text := by
  rw [← Path.names_eq_spelledNames]
  refine ⟨fun error => stem_error_iff, fun text => stem_ok_iff, ?_⟩
  intro text found
  refine ⟨stem_ne_empty found, slash_not_mem_stem found, ?_, ?_⟩
  · intro directory
    refine ⟨?_, stem_behind found (Path.names_separated directory.bytes path.bytes)⟩
    cases absolute : path.isAbsolute with
    | true =>
        rw [Path.join_of_absolute directory absolute]
        exact found
    | false => exact stem_behind found (Path.names_join directory absolute)
  · intro pieces vacuous
    exact stem_of_getLast? found (by rw [Path.names_trailing path vacuous])

/-- A name that begins with a dot and has two more of them, behind a directory whose name is no text
and in front of slashes and a dot. -/
theorem hiddenName_stem :
    stem (.ofText ".a.b.c") = .ok ".a.b" ∧
      stem ⟨[0xFF] ++ Path.slash :: (Path.ofText ".a.b.c").bytes⟩ = .ok ".a.b" ∧
      stem ⟨(Path.ofText ".a.b.c").bytes ++ [[Path.slash], [Path.slash, Path.dot]].flatten⟩ =
        .ok ".a.b" := by
  have found : stem (.ofText ".a.b.c") = .ok ".a.b" := by decide +kernel
  obtain ⟨_, _, behind, ahead⟩ := (stem_spelled (.ofText ".a.b.c")).2.2 ".a.b" found
  exact ⟨found, (behind ⟨[0xFF]⟩).2, ahead _ (by decide)⟩

end Template

end CompilerDriver
