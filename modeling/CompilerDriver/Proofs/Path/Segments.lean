import CompilerDriver.Path
import Mathlib.Data.List.Induction

/-!
Segments of paths. Splitting and joining undo each other, and two byte strings put side by side
share only the segment where they meet. A parent has all the names of its path but the last one.
-/

namespace CompilerDriver.Path

variable {separator : UInt8}

theorem splitAt_ne_nil (separator : UInt8) (bytes : Bytes) : splitAt separator bytes ≠ [] := by
  cases bytes with
  | nil => exact List.cons_ne_nil _ _
  | cons byte rest =>
      rw [splitAt]
      split
      · exact List.cons_ne_nil _ _
      · split <;> exact List.cons_ne_nil _ _

theorem splitAt_cons_self (rest : Bytes) :
    splitAt separator (separator :: rest) = [] :: splitAt separator rest := by
  rw [splitAt, if_pos rfl]

theorem splitAt_cons_other {byte : UInt8} (other : byte ≠ separator) {rest first : Bytes}
    {others : List Bytes} (splitRest : splitAt separator rest = first :: others) :
    splitAt separator (byte :: rest) = (byte :: first) :: others := by
  rw [splitAt, if_neg other, splitRest]

theorem splitAt_append {left right last first : Bytes} {front back : List Bytes}
    (leftSplit : splitAt separator left = front ++ [last])
    (rightSplit : splitAt separator right = first :: back) :
    splitAt separator (left ++ right) = front ++ (last ++ first) :: back := by
  induction left generalizing front last with
  | nil =>
      cases front with
      | nil =>
          cases leftSplit
          exact rightSplit
      | cons segment rest =>
          have short := congrArg List.length leftSplit
          simp [splitAt] at short
  | cons byte rest ih =>
      by_cases same : byte = separator
      · subst byte
        rw [splitAt_cons_self] at leftSplit
        cases front with
        | nil => exact absurd (List.cons.inj leftSplit).2 (splitAt_ne_nil separator rest)
        | cons segment others =>
            obtain ⟨empty, restSplit⟩ := List.cons.inj leftSplit
            rw [List.cons_append, splitAt_cons_self, ih restSplit, ← empty, List.cons_append]
      · cases restSplit : splitAt separator rest with
        | nil => exact absurd restSplit (splitAt_ne_nil separator rest)
        | cons segment others =>
            rw [splitAt_cons_other same restSplit] at leftSplit
            cases front with
            | nil =>
                obtain ⟨whole, noneLeft⟩ := List.cons.inj leftSplit
                subst whole noneLeft
                have joined : splitAt separator (rest ++ right) = [] ++ (segment ++ first) :: back :=
                  ih restSplit
                exact splitAt_cons_other same joined
            | cons head tail =>
                obtain ⟨whole, remaining⟩ := List.cons.inj leftSplit
                subst whole remaining
                have joined : splitAt separator (rest ++ right) =
                    (segment :: tail) ++ (last ++ first) :: back := ih restSplit
                exact splitAt_cons_other same joined

theorem splitAt_of_not_mem {bytes : Bytes} (absent : separator ∉ bytes) :
    splitAt separator bytes = [bytes] := by
  induction bytes with
  | nil => rfl
  | cons byte rest ih =>
      have other : byte ≠ separator := by
        intro same
        exact absent (same ▸ List.mem_cons_self)
      exact splitAt_cons_other other (ih fun member => absent (List.mem_cons_of_mem _ member))

theorem not_mem_of_mem_splitAt {bytes segment : Bytes} (member : segment ∈ splitAt separator bytes) :
    separator ∉ segment := by
  induction bytes generalizing segment with
  | nil =>
      rw [List.mem_singleton.mp member]
      exact List.not_mem_nil
  | cons byte rest ih =>
      by_cases same : byte = separator
      · subst byte
        rw [splitAt_cons_self] at member
        rcases List.mem_cons.mp member with empty | later
        · rw [empty]
          exact List.not_mem_nil
        · exact ih later
      · cases restSplit : splitAt separator rest with
        | nil => exact absurd restSplit (splitAt_ne_nil separator rest)
        | cons first others =>
            rw [splitAt_cons_other same restSplit] at member
            rw [restSplit] at ih
            rcases List.mem_cons.mp member with whole | later
            · rw [whole]
              intro inside
              rcases List.mem_cons.mp inside with here | there
              · exact same here.symm
              · exact ih List.mem_cons_self there
            · exact ih (List.mem_cons_of_mem _ later)

theorem joinWith_splitAt (bytes : Bytes) : joinWith separator (splitAt separator bytes) = bytes := by
  induction bytes with
  | nil => rfl
  | cons byte rest ih =>
      cases restSplit : splitAt separator rest with
      | nil => exact absurd restSplit (splitAt_ne_nil separator rest)
      | cons first others =>
          rw [restSplit] at ih
          by_cases same : byte = separator
          · subst byte
            rw [splitAt_cons_self, restSplit]
            exact congrArg (List.cons separator) ih
          · rw [splitAt_cons_other same restSplit]
            cases others with
            | nil => exact congrArg (List.cons byte) ih
            | cons next more => exact congrArg (List.cons byte) ih

theorem splitAt_joinWith {segments : List Bytes} (someSegments : segments ≠ [])
    (clean : ∀ segment ∈ segments, separator ∉ segment) :
    splitAt separator (joinWith separator segments) = segments := by
  induction segments with
  | nil => exact absurd rfl someSegments
  | cons first rest ih =>
      cases rest with
      | nil => exact splitAt_of_not_mem (clean first List.mem_cons_self)
      | cons next others =>
          have tail := ih (List.cons_ne_nil _ _)
            fun segment member => clean segment (List.mem_cons_of_mem _ member)
          have alone : splitAt separator first = [] ++ [first] :=
            splitAt_of_not_mem (clean first List.mem_cons_self)
          have apart : splitAt separator (separator :: joinWith separator (next :: others)) =
              [] :: next :: others := by
            rw [splitAt_cons_self, tail]
          have joined := splitAt_append alone apart
          rw [List.append_nil] at joined
          exact joined

variable (separator) in
theorem joinWith_beginning {front : List Bytes} (someFront : front ≠ []) (back : List Bytes) :
    joinWith separator front <+: joinWith separator (front ++ back) := by
  induction front with
  | nil => exact absurd rfl someFront
  | cons first rest ih =>
      cases rest with
      | nil =>
          cases back with
          | nil => exact List.prefix_refl _
          | cons next others => exact List.prefix_append _ _
      | cons next others =>
          exact (List.prefix_append_right_inj first).mpr
            (List.cons_prefix_cons.mpr ⟨rfl, ih (List.cons_ne_nil _ _)⟩)

theorem segments_ne_nil (path : Path) : path.segments ≠ [] :=
  splitAt_ne_nil slash path.bytes

theorem slash_not_mem_of_mem_segments {path : Path} {segment : Bytes}
    (member : segment ∈ path.segments) : slash ∉ segment :=
  not_mem_of_mem_splitAt member

theorem ofSegments_segments (path : Path) : ofSegments path.segments = path := by
  unfold ofSegments segments
  rw [joinWith_splitAt]

theorem segments_ofSegments {segments : List Bytes} (someSegments : segments ≠ [])
    (clean : ∀ segment ∈ segments, slash ∉ segment) :
    (ofSegments segments).segments = segments :=
  splitAt_joinWith someSegments clean

theorem isAbsolute_iff (path : Path) :
    path.isAbsolute = true ↔ ∃ next others, path.segments = [] :: next :: others := by
  obtain ⟨bytes⟩ := path
  cases bytes with
  | nil =>
      constructor
      · intro absolute
        cases absolute
      · rintro ⟨next, others, same⟩
        cases same
  | cons byte rest =>
      unfold isAbsolute segments
      rw [List.head?_cons, beq_iff_eq, Option.some.injEq]
      constructor
      · intro same
        subst byte
        cases restSplit : splitAt slash rest with
        | nil => exact absurd restSplit (splitAt_ne_nil slash rest)
        | cons next others => exact ⟨next, others, by rw [splitAt_cons_self, restSplit]⟩
      · rintro ⟨next, others, splitHere⟩
        apply Classical.byContradiction
        intro other
        cases restSplit : splitAt slash rest with
        | nil => exact absurd restSplit (splitAt_ne_nil slash rest)
        | cons first more =>
            rw [splitAt_cons_other other restSplit] at splitHere
            cases splitHere

theorem isVacuous_eq_false_iff {segment : Bytes} :
    isVacuous segment = false ↔ segment ≠ [] ∧ segment ≠ here := by
  unfold isVacuous
  rw [Bool.or_eq_false_iff, List.isEmpty_eq_false_iff, beq_eq_false_iff_ne]

theorem isAbsolute_of_segments {path : Path} {front back : List Bytes} {own : Bytes}
    (split : path.segments = front ++ own :: back) (someBytes : own ≠ []) :
    path.isAbsolute = (front.head? == some []) := by
  rw [Bool.eq_iff_iff, isAbsolute_iff, split, beq_iff_eq]
  cases front with
  | nil =>
      rw [List.nil_append, List.head?_nil]
      constructor
      · rintro ⟨next, others, same⟩
        exact absurd (List.cons.inj same).1 someBytes
      · intro impossible
        cases impossible
  | cons first rest =>
      rw [List.cons_append, List.head?_cons, Option.some.injEq]
      constructor
      · rintro ⟨next, others, same⟩
        exact (List.cons.inj same).1
      · intro same
        cases rest with
        | nil => exact ⟨_, _, by rw [same]; rfl⟩
        | cons next others => exact ⟨next, others ++ own :: back, by rw [same]; rfl⟩

theorem names_of_segments {path : Path} {front back : List Bytes} {own : Bytes}
    (split : path.segments = front ++ own :: back) (named : isVacuous own = false) :
    path.names = front.filter (fun segment => !isVacuous segment) ++
      own :: back.filter fun segment => !isVacuous segment := by
  unfold names
  rw [split, List.filter_append, List.filter_cons_of_pos (by simp [named])]

theorem names_ofSegments {segments : List Bytes} (someSegments : segments ≠ [])
    (clean : ∀ segment ∈ segments, slash ∉ segment) :
    (ofSegments segments).names = segments.filter fun segment => !isVacuous segment := by
  unfold names
  rw [segments_ofSegments someSegments clean]

/-! ### Parents -/

/-- What a parent has in common with its path. -/
structure Above (parent path : Path) : Prop where
  names : ∃ name, path.names = parent.names ++ [name]
  absolute : parent.isAbsolute = path.isAbsolute
  beginning : parent.bytes <+: path.bytes
  inhabited : parent.bytes ≠ []
  trimmed : parent.names = [] ∨
    ∃ front name, parent.segments = front ++ [name] ∧ isVacuous name = false

theorem trim_end {α : Type} (test : α → Bool) (items : List α) :
    ∃ front back, items = front ++ back ∧ items.reverse.dropWhile test = front.reverse ∧
      (∀ item ∈ back, test item = true) ∧
      (front = [] ∨ ∃ before last, front = before ++ [last] ∧ test last = false) := by
  induction items using List.reverseRecOn with
  | nil => exact ⟨[], [], rfl, rfl, nofun, Or.inl rfl⟩
  | append_singleton items item ih =>
      rw [List.reverse_append, List.reverse_singleton, List.singleton_append]
      cases tested : test item with
      | true =>
          obtain ⟨front, back, split, dropped, all, ending⟩ := ih
          refine ⟨front, back ++ [item], ?_, ?_, ?_, ending⟩
          · rw [split, List.append_assoc]
          · rw [List.dropWhile_cons_of_pos tested, dropped]
          · intro other member
            rcases List.mem_append.mp member with old | new
            · exact all other old
            · rw [List.mem_singleton.mp new]
              exact tested
      | false =>
          refine ⟨items ++ [item], [], (List.append_nil _).symm, ?_, nofun,
            Or.inr ⟨items, item, rfl, tested⟩⟩
          rw [List.dropWhile_cons_of_neg (by simp [tested]), List.reverse_append]
          rfl

theorem filter_vacuous {segments : List Bytes} (all : ∀ segment ∈ segments, isVacuous segment) :
    segments.filter (fun segment => !isVacuous segment) = [] := by
  refine List.filter_eq_nil_iff.mpr ?_
  intro segment member
  simp [all segment member]

theorem dropLastName_cases (body : List Bytes) :
    (dropLastName body.reverse = none ∧ body.filter (fun segment => !isVacuous segment) = []) ∨
    ∃ kept name back,
      dropLastName body.reverse = some kept.reverse ∧ body = kept ++ back ∧ back ≠ [] ∧
      body.filter (fun segment => !isVacuous segment) =
        kept.filter (fun segment => !isVacuous segment) ++ [name] ∧
      (kept = [] ∨ ∃ front last, kept = front ++ [last] ∧ isVacuous last = false) := by
  obtain ⟨front, tail, split, dropped, vacuous, ending⟩ := trim_end isVacuous body
  rcases ending with rfl | ⟨before, name, rfl, named⟩
  · refine Or.inl ⟨?_, ?_⟩
    · rw [dropLastName, dropped]
      rfl
    · rw [split]
      exact filter_vacuous vacuous
  · obtain ⟨kept, middle, splitBefore, droppedBefore, between, ending⟩ :=
      trim_end isVacuous before
    refine Or.inr ⟨kept, name, middle ++ name :: tail, ?_, ?_, by simp, ?_, ending⟩
    · rw [dropLastName, dropped, List.reverse_append]
      change some (before.reverse.dropWhile isVacuous) = _
      rw [droppedBefore]
    · rw [split, splitBefore]
      simp only [List.append_assoc, List.singleton_append]
    · rw [split, splitBefore, List.filter_append, List.filter_append, List.filter_append,
        filter_vacuous vacuous, filter_vacuous between, List.append_nil, List.append_nil,
        List.filter_cons_of_pos (by simp [named]), List.filter_nil]

theorem above_root {path : Path} {back : List Bytes} {name : Bytes}
    (split : path.segments = [] :: back) (more : back ≠ [])
    (named : back.filter (fun segment => !isVacuous segment) = [name]) :
    Above ⟨[slash]⟩ path := by
  have absolute : path.isAbsolute = true := by
    rw [isAbsolute_iff, split]
    cases back with
    | nil => exact absurd rfl more
    | cons next others => exact ⟨next, others, rfl⟩
  refine ⟨⟨name, ?_⟩, absolute.symm, ?_, List.cons_ne_nil _ _, Or.inl rfl⟩
  · unfold names
    rw [split, List.filter_cons_of_neg (by decide), named]
    rfl
  · obtain ⟨bytes⟩ := path
    cases bytes with
    | nil => cases absolute
    | cons byte rest =>
        have same : byte = slash := by simpa [isAbsolute] using absolute
        rw [same]
        exact List.prefix_append [slash] rest

theorem isAbsolute_ofSegments {path : Path} {head : Bytes} {kept back : List Bytes}
    (own : (ofSegments (head :: kept)).segments = head :: kept)
    (split : path.segments = head :: (kept ++ back)) (proper : head ≠ [] ∨ kept ≠ []) :
    (ofSegments (head :: kept)).isAbsolute = path.isAbsolute := by
  rw [Bool.eq_iff_iff, isAbsolute_iff, isAbsolute_iff, own, split]
  cases kept with
  | nil =>
      have someHead := proper.resolve_right (fun other => other rfl)
      constructor
      · rintro ⟨next, others, same⟩
        cases same
      · rintro ⟨next, others, same⟩
        exact absurd (List.cons.inj same).1 someHead
  | cons first rest =>
      constructor
      · rintro ⟨next, others, same⟩
        exact ⟨first, rest ++ back, by rw [(List.cons.inj same).1, List.cons_append]⟩
      · rintro ⟨next, others, same⟩
        exact ⟨first, rest, by rw [(List.cons.inj same).1]⟩

theorem ofSegments_beginning {path : Path} {head : Bytes} {kept back : List Bytes}
    (split : path.segments = head :: (kept ++ back)) :
    (ofSegments (head :: kept)).bytes <+: path.bytes := by
  have begins := joinWith_beginning slash (List.cons_ne_nil head kept) back
  rw [List.cons_append, ← split] at begins
  have whole := congrArg Path.bytes (ofSegments_segments path)
  unfold ofSegments at whole ⊢
  simp only at whole
  rwa [whole] at begins

theorem above_ofSegments {path : Path} {head name : Bytes} {kept back : List Bytes}
    (split : path.segments = head :: (kept ++ back)) (proper : head ≠ [] ∨ kept ≠ [])
    (named : (kept ++ back).filter (fun segment => !isVacuous segment) =
      kept.filter (fun segment => !isVacuous segment) ++ [name])
    (ending : kept = [] ∨ ∃ front last, kept = front ++ [last] ∧ isVacuous last = false) :
    Above (ofSegments (head :: kept)) path := by
  have clean : ∀ segment ∈ head :: kept, slash ∉ segment := by
    intro segment member
    have inside : segment ∈ path.segments := by
      rw [split, ← List.cons_append]
      exact List.mem_append_left back member
    exact slash_not_mem_of_mem_segments inside
  have own := segments_ofSegments (List.cons_ne_nil head kept) clean
  refine ⟨⟨name, ?_⟩, isAbsolute_ofSegments own split proper, ofSegments_beginning split, ?_, ?_⟩
  · rw [names_ofSegments (List.cons_ne_nil head kept) clean]
    unfold names
    rw [split, List.filter_cons, List.filter_cons]
    split
    · rw [named, List.cons_append]
    · exact named
  · intro nothing
    have same : splitAt slash [] = head :: kept := by
      rw [← nothing]
      exact own
    obtain ⟨headEmpty, keptEmpty⟩ := List.cons.inj same
    rcases proper with someHead | someKept
    · exact someHead headEmpty.symm
    · exact someKept keptEmpty.symm
  · rcases ending with rfl | ⟨front, last, rfl, properLast⟩
    · cases vacuous : isVacuous head with
      | true =>
          refine Or.inl ?_
          rw [names_ofSegments (List.cons_ne_nil _ _) clean,
            List.filter_cons_of_neg (by simp [vacuous]), List.filter_nil]
      | false => exact Or.inr ⟨[], head, own, vacuous⟩
    · exact Or.inr ⟨head :: front, last, own, properLast⟩

theorem parent?_cases (path : Path) :
    ((path.parent? = none ∨ path.parent? = some empty) ∧ path.names.dropLast = []) ∨
      ∃ parent, path.parent? = some parent ∧ Above parent path := by
  unfold parent?
  cases split : path.segments with
  | nil => exact absurd split (segments_ne_nil path)
  | cons head body =>
      rcases dropLastName_cases body with ⟨dropped, few⟩ | ⟨kept, name, back, dropped, rfl, more,
        named, ending⟩
      · refine Or.inl ⟨?_, ?_⟩
        · simp only [dropped]
          split
          · exact Or.inl rfl
          · exact Or.inr rfl
        · unfold names
          rw [split, List.filter_cons]
          split <;> rw [few] <;> rfl
      · refine Or.inr ?_
        simp only [dropped, List.reverse_reverse]
        by_cases root : head = [] ∧ kept = []
        · obtain ⟨rfl, rfl⟩ := root
          exact ⟨_, rfl, above_root split more named⟩
        · have proper : head ≠ [] ∨ kept ≠ [] := Classical.not_and_iff_not_or_not.mp root
          refine ⟨_, if_neg ?_, above_ofSegments split proper named ending⟩
          simpa using fun empty => proper.resolve_left (fun other => other empty)

end CompilerDriver.Path
