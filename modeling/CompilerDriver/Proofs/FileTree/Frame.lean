import CompilerDriver.Proofs.FileTree.Product

/-!
What writing a product changes. Before the file is opened, a tree is only extended by directories,
at places that the parent of the path comes by. Then one file is replaced or made. After a failure
the directories may be there, but every file is as it was. Nothing is assumed of the tree.
-/

namespace CompilerDriver.FileTree

variable {tree before middle after : FileTree} {path : Path} {allowed : Place → Prop}

/-- A tree in which some more directories stand, at places where they are allowed. -/
structure Extends (allowed : Place → Prop) (before after : FileTree) : Prop where
  start : after.start = before.start
  places : ∀ place, after.get? place = before.get? place ∨
    before.get? place = none ∧ after.get? place = some .directory ∧ allowed place

theorem Extends.refl (allowed : Place → Prop) (tree : FileTree) : Extends allowed tree tree :=
  ⟨rfl, fun _ => Or.inl rfl⟩

theorem Extends.mono {wider : Place → Prop} (extended : Extends allowed before after)
    (included : ∀ place, allowed place → wider place) : Extends wider before after := by
  refine ⟨extended.start, ?_⟩
  intro place
  rcases extended.places place with same | ⟨missing, made, inside⟩
  · exact Or.inl same
  · exact Or.inr ⟨missing, made, included place inside⟩

theorem Extends.kept (extended : Extends allowed before after) (place : Place) :
    Kept before after place := by
  rcases extended.places place with same | ⟨missing, made, _⟩
  · exact Or.inl same
  · exact Or.inr ⟨missing, made⟩

theorem Extends.trans (first : Extends allowed before middle)
    (second : Extends allowed middle after) : Extends allowed before after := by
  refine ⟨second.start.trans first.start, ?_⟩
  intro place
  rcases second.places place with same | ⟨missing, made, inside⟩
  · rw [same]
    exact first.places place
  · rcases first.places place with unchanged | ⟨_, directory, _⟩
    · rw [unchanged] at missing
      exact Or.inr ⟨missing, made, inside⟩
    · rw [missing] at directory
      cases directory

theorem Extends.put {place : Place} (missing : tree.get? place = none) (inside : allowed place) :
    Extends allowed tree (tree.put place .directory) := by
  refine ⟨rfl, ?_⟩
  intro other
  rw [get?_put tree (ne_root_of_missing missing)]
  by_cases here : other = place
  · subst other
    rw [if_pos rfl]
    exact Or.inr ⟨missing, rfl, inside⟩
  · rw [if_neg here]
    exact Or.inl rfl

/-- The places that the beginnings of a path lead to. -/
def Along (tree : FileTree) (path : Path) (place : Place) : Prop :=
  ∃ front, front <+: path.names ∧ place = reach (tree.origin path) front

theorem reach_steps (place : Place) (path : Path) :
    reach place (steps path) = reach place path.names := by
  rw [← reach_filter, steps_names]

theorem makeDirectory_extends {next : FileTree} (made : tree.makeDirectory path = .ok next) :
    Extends (tree.Along path) tree next := by
  cases refused : objection? path with
  | some error =>
      unfold makeDirectory at made
      rw [approach_eq, refused] at made
      cases made
  | none =>
      rw [makeDirectory_eq tree refused] at made
      cases entered : tree.enterAll (tree.origin path) (steps path) with
      | error error =>
          rw [entered] at made
          cases made
      | ok place =>
          simp only [entered] at made
          split at made
          case isTrue => cases made
          case isFalse free =>
            cases made
            have missing : tree.get? place = none := by
              cases taken : tree.get? place with
              | none => rfl
              | some node => exact absurd (by simp [taken]) free
            refine Extends.put missing ⟨path.names, List.prefix_rfl, ?_⟩
            rw [enterAll_ok entered, reach_steps]

theorem settled_extends {result : Except OsError FileTree}
    (made : ∀ next, result = .ok next → Extends allowed tree next) :
    Extends allowed tree (tree.settled path result).2 := by
  unfold settled
  cases result with
  | ok next => exact made next rfl
  | error error =>
      simp only
      split <;> exact Extends.refl allowed tree

theorem Along.of_parent {parent : Path} {place : Place} (above : Path.Above parent path)
    (along : tree.Along parent place) : tree.Along path place := by
  obtain ⟨front, beginning, reached⟩ := along
  obtain ⟨name, names⟩ := above.names
  refine ⟨front, ?_, ?_⟩
  · rw [names]
    exact beginning.trans (List.prefix_append _ _)
  · rw [reached, Above.origin_eq above]

theorem makeDirectories_extends (depth : Nat) (tree : FileTree) (path : Path) :
    Extends (tree.Along path) tree (makeDirectories depth tree path).2 := by
  induction depth generalizing tree path with
  | zero => exact Extends.refl _ tree
  | succ depth ih =>
      have alone : Extends (tree.Along path) tree
          (tree.settled path (tree.makeDirectory path)).2 :=
        settled_extends fun next made => makeDirectory_extends made
      by_cases missing : tree.makeDirectory path = .error .noEntry
      · rw [makeDirectories_succ, missing]
        rcases Path.parent?_cases path with ⟨nothing | lone, _⟩ | ⟨parent, found, above⟩
        · rw [nothing]
          exact Extends.refl _ tree
        · rw [missing] at alone
          rw [lone]
          exact alone
        · have proper : ¬(parent.isEmpty = true) := by
            simpa [Path.isEmpty] using above.inhabited
          have higher : Extends (tree.Along path) tree (makeDirectories depth tree parent).2 :=
            (ih tree parent).mono fun place along => along.of_parent above
          simp only [found, if_neg proper]
          cases made : makeDirectories depth tree parent with
          | mk cause next =>
              rw [made] at higher
              cases cause with
              | some error => exact higher
              | none =>
                  -- The last directory is made in the tree that has the parent.
                  have sameOrigin : next.Along path = tree.Along path := by
                    unfold Along
                    rw [origin_congr higher.start]
                  refine higher.trans (settled_extends ?_)
                  intro last madeLast
                  rw [← sameOrigin]
                  exact makeDirectory_extends madeLast
      · rw [makeDirectories_of_other missing]
        exact alone

/-- The places of the directories that a product may need: those along its parent. -/
def OnWay (tree : FileTree) (path : Path) (place : Place) : Prop :=
  ∃ parent, path.parent? = some parent ∧ tree.Along parent place

theorem cleared_extends (tree : FileTree) (path : Path) :
    Extends (tree.OnWay path) tree (tree.cleared path).2 := by
  unfold cleared
  cases found : path.parent? with
  | none => exact Extends.refl _ tree
  | some parent =>
      simp only
      split
      · exact Extends.refl _ tree
      · exact (makeDirectories_extends _ tree parent).mono fun place along => ⟨parent, found, along⟩

theorem openIn_named {parent place : Place} (opened : tree.openIn path parent = .ok place) :
    endsInSlash path = false ∧ tree.enter parent ((steps path).getLast?.getD []) = .ok place := by
  obtain ⟨parentDirectory, not_directory, _⟩ := openIn_ok opened
  unfold openIn at opened
  simp only at opened
  cases bare : lacksName (steps path) || endsInSlash path with
  | false =>
      rw [bare, if_neg nofun] at opened
      refine ⟨(Bool.or_eq_false_iff.mp bare).2, ?_⟩
      cases entered : tree.enter parent ((steps path).getLast?.getD []) with
      | error error =>
          rw [entered] at opened
          cases opened
      | ok next =>
          rw [entered] at opened
          simp only at opened
          split at opened
          · cases opened
          · exact opened
  | true =>
      -- Without a name of its own, the path would open the directory itself.
      have short : ¬(nameLimit < Path.here.length) := by decide
      rw [bare, if_pos rfl, enter_of_directory parentDirectory, if_neg short,
        turn_of_vacuous (by decide)] at opened
      simp only [if_pos parentDirectory] at opened
      cases opened

theorem openPlace_walk {place : Place} (opened : tree.openPlace path = .ok place) :
    objection? path = none ∧ endsInSlash path = false ∧
      tree.enterAll (tree.origin path) (steps path) = .ok place := by
  cases refused : objection? path with
  | some error =>
      rw [openPlace_refused tree refused] at opened
      cases opened
  | none =>
      rw [openPlace_eq tree refused] at opened
      cases entered : tree.enterAll (tree.origin path) (steps path).dropLast with
      | error error =>
          rw [entered] at opened
          cases opened
      | ok parent =>
          rw [entered] at opened
          obtain ⟨openEnded, last⟩ := openIn_named opened
          obtain ⟨_, _, front, name, split, _⟩ := openIn_ok opened
          refine ⟨rfl, openEnded, ?_⟩
          rw [split, List.dropLast_concat] at entered
          rw [split, List.getLast?_concat, Option.getD_some] at last
          rw [split, enterAll_append, entered]
          exact (enterAll_singleton parent name).trans last

theorem enterAll_kept {place goal : Place} {segments : List Bytes}
    (kept : ∀ other, tree.get? other = some .directory → after.get? other = some .directory)
    (entered : tree.enterAll place segments = .ok goal) :
    after.enterAll place segments = .ok goal := by
  induction segments generalizing place with
  | nil => exact entered
  | cons segment rest ih =>
      rw [enterAll] at entered
      cases first : tree.enter place segment with
      | error error =>
          rw [first] at entered
          cases entered
      | ok next =>
          rw [first] at entered
          obtain ⟨here, short, rfl⟩ := enter_ok first
          rw [enterAll_directory (kept place here) short]
          exact ih entered

theorem locate_eq (tree : FileTree) (fine : objection? path = none) :
    tree.locate path = tree.enterAll (tree.origin path) (steps path) := by
  unfold locate
  rw [approach_eq, fine]

theorem locate_kept {goal : Place} (starts : after.start = tree.start)
    (kept : ∀ other, tree.get? other = some .directory → after.get? other = some .directory)
    (located : tree.locate path = .ok goal) : after.locate path = .ok goal := by
  cases refused : objection? path with
  | some error =>
      unfold locate at located
      rw [approach_eq, refused] at located
      cases located
  | none =>
      rw [locate_eq tree refused] at located
      rw [locate_eq after refused, origin_congr starts]
      exact enterAll_kept kept located

theorem readFile_of_file {goal : Place} {bytes : Bytes} {executable : Bool}
    (located : tree.locate path = .ok goal)
    (here : tree.get? goal = some (.file bytes executable)) (openEnded : endsInSlash path = false) :
    tree.readFile path = .ok bytes := by
  have looked : tree.look path = .ok (goal, .file bytes executable) := by
    unfold look
    simp only [located, here, openEnded, Bool.false_eq_true, if_false]
  unfold readFile
  rw [looked]

/-! ### Products -/

/-- Some bytes have been put at a path: they are read back there, what else has changed are
directories on the way, and no directory was replaced. A file that was there keeps its mode. -/
structure Delivers (path : Path) (bytes : Bytes) (before after : FileTree) : Prop where
  start : after.start = before.start
  read : after.readFile path = .ok bytes
  places : ∃ goal, after.locate path = .ok goal ∧ before.get? goal ≠ some .directory ∧
    after.get? goal = some (.file bytes (before.executableAt goal)) ∧
    ∀ place, place ≠ goal → after.get? place = before.get? place ∨
      before.get? place = none ∧ after.get? place = some .directory ∧ before.OnWay path place

theorem Delivers.directory {bytes : Bytes} {place : Place}
    (delivered : Delivers path bytes before after) (here : before.get? place = some .directory) :
    after.get? place = some .directory := by
  obtain ⟨goal, _, not_directory, _, others⟩ := delivered.places
  have elsewhere : place ≠ goal := fun same => not_directory (same ▸ here)
  rcases others place elsewhere with same | ⟨missing, _⟩
  · rw [same, here]
  · rw [here] at missing
    cases missing

theorem Extends.executableAt (extended : Extends allowed before after) (place : Place) :
    after.executableAt place = before.executableAt place := by
  unfold FileTree.executableAt
  rcases extended.places place with same | ⟨missing, made, _⟩
  · rw [same]
  · rw [missing, made]

theorem Extends.written {bytes : Bytes} (extended : Extends (before.OnWay path) before middle)
    (succeeded : (middle.written path bytes).1 = none) :
    Delivers path bytes before (middle.written path bytes).2 := by
  unfold FileTree.written at succeeded ⊢
  cases opened : middle.openPlace path with
  | error error =>
      rw [opened] at succeeded
      cases succeeded
  | ok goal =>
      obtain ⟨fine, openEnded, entered⟩ := openPlace_walk opened
      obtain ⟨_, not_directory, parent, name, split, _⟩ := openPlace_ok opened
      have inside : goal ≠ [] := by simp [split]
      simp only
      -- What is replaced was no directory, so a walk gets as far as before.
      have directories : ∀ other, middle.get? other = some .directory →
          (middle.put goal (.file bytes (middle.executableAt goal))).get? other =
            some .directory := by
        intro other here
        have elsewhere : other ≠ goal := fun same => not_directory (same ▸ here)
        rw [get?_put middle inside, if_neg elsewhere, here]
      have located : (middle.put goal (.file bytes (middle.executableAt goal))).locate path =
          .ok goal := by
        rw [← locate_eq middle fine] at entered
        exact locate_kept (put_start ..) directories entered
      have here := get?_put_self middle goal (.file bytes (middle.executableAt goal)) inside
      refine ⟨extended.start, readFile_of_file located here openEnded, goal, located, ?_, ?_, ?_⟩
      · exact fun directory => not_directory ((extended.kept goal).directory directory)
      · rw [here, extended.executableAt]
      · intro place elsewhere
        rw [get?_put middle inside, if_neg elsewhere]
        exact extended.places place

/-- A product that could not be written has left directories on its way at most; a product that was
written is read back from where it was put. -/
theorem writeProduct_frame (tree : FileTree) (path : Path) (bytes : Bytes) :
    (∀ cause, (tree.writeProduct path bytes).1 = some cause →
        Extends (tree.OnWay path) tree (tree.writeProduct path bytes).2) ∧
      ((tree.writeProduct path bytes).1 = none →
        Delivers path bytes tree (tree.writeProduct path bytes).2) := by
  have extended := cleared_extends tree path
  rw [writeProduct_cleared]
  cases made : tree.cleared path with
  | mk cause next =>
      rw [made] at extended
      cases cause with
      | some error => exact ⟨fun _ _ => extended, nofun⟩
      | none =>
          refine ⟨?_, fun succeeded => extended.written succeeded⟩
          intro cause failed
          simp only [FileTree.written] at failed ⊢
          cases opened : next.openPlace path with
          | error error => exact extended
          | ok goal =>
              rw [opened] at failed
              cases failed

end CompilerDriver.FileTree
