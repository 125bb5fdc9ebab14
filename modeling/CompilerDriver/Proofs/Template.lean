import CompilerDriver.Proofs.FileTree.Product
import CompilerDriver.Proofs.Text.Utf8
import CompilerDriver.Template

/-!
Targets and the names along them. A template can be filled with every stem or with none. The stem of
a source falls into one name of its target; the names before it and after it are those of the
template. Different stems give different names, and no name but one made of a dot or two dots can be
mistaken for a segment that names nothing.
-/

namespace CompilerDriver

namespace Path

theorem nameStem_ne_nil {name : Bytes} (someBytes : name ≠ []) : nameStem name ≠ [] := by
  unfold nameStem
  split
  · exact someBytes
  · split
    · exact someBytes
    case isFalse proper =>
      intro nothing
      rw [List.reverse_eq_nil_iff] at nothing
      exact proper (List.isEmpty_iff.mpr nothing)

theorem mem_of_mem_nameStem {name : Bytes} {byte : UInt8} (member : byte ∈ nameStem name) :
    byte ∈ name := by
  unfold nameStem at member
  split at member
  · exact member
  case h_2 before splitName =>
    split at member
    · exact member
    · have inside : byte ∈ name.reverse.dropWhile (· ≠ dot) := by
        rw [splitName]
        exact List.mem_cons_of_mem _ (List.mem_reverse.mp member)
      exact List.mem_reverse.mp ((List.dropWhile_sublist _).subset inside)

theorem names_proper {path : Path} {name : Bytes} (member : name ∈ path.names) :
    name ≠ [] ∧ slash ∉ name := by
  obtain ⟨inside, named⟩ := List.mem_filter.mp member
  rw [Bool.not_eq_true'] at named
  exact ⟨(isVacuous_eq_false_iff.mp named).1, slash_not_mem_of_mem_segments inside⟩

theorem fileName?_eq_some_iff {path : Path} {name : Bytes} :
    path.fileName? = some name ↔ path.names.getLast? = some name ∧ name ≠ up := by
  unfold fileName?
  cases path.names.getLast? with
  | none =>
      refine iff_of_false nofun ?_
      rintro ⟨impossible, _⟩
      cases impossible
  | some last =>
      simp only
      by_cases climb : last = up
      · rw [if_pos climb]
        refine iff_of_false nofun ?_
        rintro ⟨same, other⟩
        cases same
        exact other climb
      · rw [if_neg climb]
        constructor
        · intro same
          cases same
          exact ⟨rfl, climb⟩
        · exact fun found => found.1

theorem stem?_proper {path : Path} {name : Bytes} (found : path.stem? = some name) :
    name ≠ [] ∧ slash ∉ name := by
  obtain ⟨last, named, rfl⟩ := Option.map_eq_some_iff.mp found
  have member : last ∈ path.names := List.mem_of_getLast? (fileName?_eq_some_iff.mp named).1
  obtain ⟨someBytes, clean⟩ := names_proper member
  exact ⟨nameStem_ne_nil someBytes, fun inside => clean (mem_of_mem_nameStem inside)⟩

end Path

namespace Template

open Text.Utf8

/-- A file name keeps at least one letter, so that no stem is dropped for being empty. -/
theorem stem_eq (source : Path) :
    stem source =
      match source.stem? with
      | some name => .ok (lossy name)
      | none => .error (.invalidSource source) := by
  unfold stem
  cases read : source.stem? with
  | none => rfl
  | some name =>
      have letters : lossy name ≠ "" := by
        intro blank
        refine lossyChars_ne_nil (Path.stem?_proper read).1 ?_
        exact String.ofList_eq_empty_iff.mp blank
      rw [Option.map_some, Option.filter_some, if_pos (by simpa using letters)]

def placeholder : List Char :=
  ['\x7b', '\x7d']

theorem cut?_isSome_iff (chars : List Char) :
    (cut? chars).isSome = true ↔ placeholder <:+: chars := by
  induction chars using cut?.induct with
  | case1 => simp [cut?, placeholder]
  | case2 rest =>
      have here : placeholder <:+: '\x7b' :: '\x7d' :: rest := ⟨[], rest, rfl⟩
      simp [cut?, here]
  | case3 char rest other ih =>
      have later : (cut? (char :: rest)).isSome = (cut? rest).isSome := by
        rw [cut?, Option.isSome_map]
        exact other
      rw [later, ih, List.infix_cons_iff]
      constructor
      · exact Or.inr
      · rintro (⟨behind, start⟩ | inside)
        · have letters := List.cons.inj start
          exact absurd letters.2.symm (other behind letters.1.symm)
        · exact inside

theorem split_of_cut? {chars before after : List Char} (parts : cut? chars = some (before, after)) :
    chars = before ++ placeholder ++ after := by
  induction chars using cut?.induct generalizing before after with
  | case1 => cases parts
  | case2 rest =>
      cases parts
      rfl
  | case3 char rest other ih =>
      rw [cut?] at parts
      · obtain ⟨⟨front, back⟩, found, same⟩ := Option.map_eq_some_iff.mp parts
        cases same
        rw [ih found]
        rfl
      · exact other

/-- A template that can name a target. -/
def Usable (template : String) : Prop :=
  template = standardOutput ∨ placeholder <:+: template.toList

theorem isValid_iff (template : String) : isValid template = true ↔ Usable template := by
  unfold isValid Usable
  rw [Bool.or_eq_true, beq_iff_eq, cut?_isSome_iff]

theorem validate_of_usable {template : String} (usable : Usable template) :
    validate template = .ok () := by
  unfold validate
  rw [if_pos ((isValid_iff template).mpr usable)]

theorem validate_of_unusable {template : String} (unusable : ¬Usable template) :
    validate template = .error (.invalidTemplate template) := by
  unfold validate
  rw [if_neg fun valid => unusable ((isValid_iff template).mp valid)]

theorem resolve_of_usable {template : String} (usable : Usable template) (stem : String) :
    ∃ target, resolve template stem = .ok target := by
  unfold resolve
  split
  · exact ⟨.standardOutput, rfl⟩
  case isFalse other =>
    have placed : placeholder <:+: template.toList := usable.resolve_left other
    obtain ⟨parts, cut⟩ := Option.isSome_iff_exists.mp ((cut?_isSome_iff _).mpr placed)
    unfold fill?
    rw [cut]
    exact ⟨_, rfl⟩

theorem resolve_of_unusable {template : String} (unusable : ¬Usable template) (stem : String) :
    resolve template stem = .error (.invalidTemplate template) := by
  unfold resolve fill?
  rw [if_neg fun dash => unusable (Or.inl dash)]
  cases cut : cut? template.toList with
  | none => rfl
  | some parts =>
      exact absurd (Or.inr ((cut?_isSome_iff _).mp (Option.isSome_of_eq_some cut))) unusable

theorem resolve_standardOutput_iff {template name : String} :
    resolve template name = .ok .standardOutput ↔ template = standardOutput := by
  unfold resolve
  split
  case isTrue same => exact iff_of_true rfl same
  case isFalse other =>
    cases fill? template.toList name.toList with
    | none => exact iff_of_false nofun other
    | some chars => exact iff_of_false nofun other

theorem resolve_file_iff_cut? {template name : String} {path : Path} :
    resolve template name = .ok (.file path) ↔
      template ≠ standardOutput ∧ ∃ before after, cut? template.toList = some (before, after) ∧
        path = ⟨encodeChars (before ++ name.toList ++ after)⟩ := by
  unfold resolve
  by_cases dash : template = standardOutput
  · rw [if_pos dash]
    exact iff_of_false nofun fun file => file.1 dash
  · rw [if_neg dash]
    unfold fill?
    cases cut? template.toList with
    | none =>
        refine iff_of_false nofun ?_
        rintro ⟨_, before, after, impossible, _⟩
        cases impossible
    | some parts =>
        constructor
        · intro same
          cases same
          exact ⟨dash, _, _, rfl, rfl⟩
        · rintro ⟨_, before, after, same, rfl⟩
          cases same
          rfl

theorem outputFor_ok_iff {template : String} {source : Path} {target : Target} :
    outputFor template source = .ok target ↔
      ∃ name, stem source = .ok name ∧ resolve template name = .ok target := by
  unfold outputFor
  cases found : stem source with
  | error error =>
      refine iff_of_false nofun ?_
      rintro ⟨name, impossible, _⟩
      cases impossible
  | ok name =>
      constructor
      · exact fun resolved => ⟨name, rfl, resolved⟩
      · rintro ⟨other, same, resolved⟩
        cases same
        exact resolved

theorem error_of_usable {template : String} (usable : Usable template) {source : Path}
    {error : TemplateError} (refused : outputFor template source = .error error) :
    error = .invalidSource source := by
  unfold outputFor at refused
  cases found : stem source with
  | ok name =>
      obtain ⟨target, resolved⟩ := resolve_of_usable usable name
      rw [found] at refused
      simp only [resolved] at refused
      cases refused
  | error other =>
      rw [found] at refused
      cases refused
      rw [stem_eq] at found
      cases ending : source.stem? with
      | some name =>
          rw [ending] at found
          cases found
      | none =>
          rw [ending] at found
          exact (Except.error.inj found).symm

theorem stem_proper {source : Path} {name : String} (found : stem source = .ok name) :
    encode name ≠ [] ∧ Path.slash ∉ encode name := by
  rw [stem_eq] at found
  cases read : source.stem? with
  | none =>
      rw [read] at found
      cases found
  | some bytes =>
      rw [read, Except.ok.injEq] at found
      subst found
      obtain ⟨someBytes, clean⟩ := Path.stem?_proper read
      constructor
      · unfold encode lossy
        rw [String.toList_ofList]
        intro nothing
        refine lossyChars_ne_nil someBytes ?_
        rw [← lossyChars_encodeChars (lossyChars bytes), nothing]
        rfl
      · exact fun inside => clean (encode_lossy_small (by decide) (by decide) inside)

theorem stem_ne_empty {source : Path} {name : String} (found : stem source = .ok name) :
    name ≠ "" := by
  rintro rfl
  exact (stem_proper found).1 rfl

theorem slash_not_mem_stem {source : Path} {name : String} (found : stem source = .ok name) :
    '/' ∉ name.toList := by
  intro member
  have written : Path.slash ∈ encodeChar '/' := by decide +kernel
  exact (stem_proper found).2 (List.mem_flatMap.mpr ⟨_, member, written⟩)

/-! ### Targets -/

def front (before : List Char) : List Bytes :=
  (Path.segments ⟨encodeChars before⟩).dropLast

def back (after : List Char) : List Bytes :=
  (Path.segments ⟨encodeChars after⟩).tail

def own (before after : List Char) (name : String) : Bytes :=
  (Path.segments ⟨encodeChars before⟩).getLast?.getD [] ++ encode name ++
    (Path.segments ⟨encodeChars after⟩).head?.getD []

theorem segments_filled (before after : List Char) {name : String}
    (clean : Path.slash ∉ encode name) :
    Path.segments ⟨encodeChars (before ++ name.toList ++ after)⟩ =
      front before ++ own before after name :: back after := by
  rcases List.eq_nil_or_concat (Path.segments ⟨encodeChars before⟩) with
    noneLeft | ⟨earlier, last, left⟩
  · exact absurd noneLeft (Path.segments_ne_nil _)
  · cases right : Path.segments ⟨encodeChars after⟩ with
    | nil => exact absurd right (Path.segments_ne_nil _)
    | cons first later =>
        rw [List.concat_eq_append] at left
        have middle : Path.splitAt Path.slash (encode name) = [] ++ [encode name] :=
          Path.splitAt_of_not_mem clean
        have joined := Path.splitAt_append left (Path.splitAt_append middle right)
        unfold front own back
        rw [left, right, List.dropLast_concat, List.getLast?_concat, List.head?_cons,
          Option.getD_some, Option.getD_some, List.tail_cons, List.append_assoc last]
        unfold Path.segments
        rw [encodeChars_append, encodeChars_append, List.append_assoc]
        exact joined

/-- A file that a source is compiled to: the stem of the source, and the parts of the template
around it. -/
structure Placed (template : String) (source path : Path) (before after : List Char)
    (name : String) : Prop where
  stem : stem source = .ok name
  cut : cut? template.toList = some (before, after)
  segments : path.segments = front before ++ own before after name :: back after

theorem file_of_outputFor {template : String} {source path : Path}
    (named : outputFor template source = .ok (.file path)) :
    ∃ before after name, stem source = .ok name ∧
      cut? template.toList = some (before, after) ∧
      path = ⟨encodeChars (before ++ name.toList ++ after)⟩ := by
  obtain ⟨name, found, resolved⟩ := outputFor_ok_iff.mp named
  obtain ⟨_, before, after, parts, same⟩ := resolve_file_iff_cut?.mp resolved
  exact ⟨before, after, name, found, parts, same⟩

theorem placed_of_outputFor {template : String} {source path : Path}
    (named : outputFor template source = .ok (.file path)) :
    ∃ before after name, Placed template source path before after name := by
  obtain ⟨before, after, name, found, parts, rfl⟩ := file_of_outputFor named
  exact ⟨before, after, name, found, parts,
    segments_filled before after (stem_proper found).2⟩

theorem not_only_dots {name : String} (someBytes : encode name ≠ []) (notHere : name ≠ ".")
    (notUp : name ≠ "..") (dots : ∀ byte ∈ encode name, byte = Path.dot) :
    2 < (encode name).length := by
  have same := List.eq_replicate_of_mem dots
  have long : 0 < (encode name).length := List.length_pos_iff.mpr someBytes
  apply Classical.byContradiction
  intro short
  have few : (encode name).length = 1 ∨ (encode name).length = 2 := by omega
  rcases few with one | two
  · rw [one] at same
    exact notHere (encode_injective same)
  · rw [two] at same
    exact notUp (encode_injective same)

/-- A stem that is no dot and no two dots makes a name of its own. -/
theorem own_proper (before after : List Char) {name : String} (someBytes : encode name ≠ [])
    (notHere : name ≠ ".") (notUp : name ≠ "..") :
    Path.isVacuous (own before after name) = false ∧ own before after name ≠ Path.up := by
  have inside : encode name ⊆ own before after name := by
    intro byte member
    exact List.mem_append_left _ (List.mem_append_right _ member)
  have fewer : (encode name).length ≤ (own before after name).length := by
    unfold own
    rw [List.length_append, List.length_append]
    omega
  have longer : ∀ dots : Bytes, (∀ byte ∈ dots, byte = Path.dot) → dots.length ≤ 2 →
      own before after name ≠ dots := by
    intro dots all short same
    rw [same] at inside fewer
    have many := not_only_dots someBytes notHere notUp fun byte member => all byte (inside member)
    omega
  have two : ∀ byte ∈ Path.up, byte = Path.dot := by simp [Path.up]
  have one : ∀ byte ∈ Path.here, byte = Path.dot := by simp [Path.here]
  refine ⟨Path.isVacuous_eq_false_iff.mpr ⟨longer [] ?_ (Nat.zero_le 2),
    longer Path.here one (Nat.le_succ 1)⟩, longer Path.up two (Nat.le_refl 2)⟩
  exact fun byte member => absurd member List.not_mem_nil

theorem own_injective (before after : List Char) : Function.Injective (own before after) := by
  intro left right same
  unfold own at same
  rw [List.append_left_inj, List.append_right_inj] at same
  exact encode_injective same

def lead (before : List Char) : List Bytes :=
  (front before).filter fun segment => !Path.isVacuous segment

def trail (after : List Char) : List Bytes :=
  (back after).filter fun segment => !Path.isVacuous segment

theorem Placed.names {template : String} {source path : Path} {before after : List Char}
    {name : String} (placed : Placed template source path before after name)
    (notHere : name ≠ ".") (notUp : name ≠ "..") :
    path.names = lead before ++ own before after name :: trail after := by
  have named := (own_proper before after (stem_proper placed.stem).1 notHere notUp).1
  exact Path.names_of_segments placed.segments named

theorem Placed.isAbsolute {template : String} {source path : Path} {before after : List Char}
    {name : String} (placed : Placed template source path before after name)
    (notHere : name ≠ ".") (notUp : name ≠ "..") :
    path.isAbsolute = ((front before).head? == some []) := by
  have named := (own_proper before after (stem_proper placed.stem).1 notHere notUp).1
  exact Path.isAbsolute_of_segments placed.segments (Path.isVacuous_eq_false_iff.mp named).1

open FileTree

variable {template : String} {source path : Path} {before after : List Char} {name : String}

theorem up_not_mem_trail (level : Path.up ∉ back after) : Path.up ∉ trail after :=
  fun member => level (List.mem_filter.mp member).1

theorem Placed.mem_route (placed : Placed template source path before after name)
    (notHere : name ≠ ".") (notUp : name ≠ "..") (level : Path.up ∉ back after)
    {place other : Place} (member : other ∈ route place path.names) :
    other ∈ route place (lead before) ∨
      reach place (lead before) ++ [own before after name] <+: other := by
  rw [placed.names notHere notUp] at member
  rcases mem_route_append.mp member with common | later
  · exact Or.inl common
  · rcases List.mem_cons.mp later with here | below
    · rw [here]
      exact Or.inl (reach_mem_route _ _)
    · obtain ⟨named, notClimb⟩ :=
        own_proper before after (stem_proper placed.stem).1 notHere notUp
      rw [turn_name named notClimb] at below
      exact Or.inr (prefix_of_mem_route (up_not_mem_trail level) below)

theorem Placed.lead_dropLast (placed : Placed template source path before after name)
    (notHere : name ≠ ".") (notUp : name ≠ "..") {place other : Place}
    (member : other ∈ route place (lead before)) : other ∈ route place path.names.dropLast := by
  rw [placed.names notHere notUp, List.dropLast_append_cons]
  exact mem_route_append.mpr (Or.inl member)

theorem Placed.level (placed : Placed template source path before after name)
    (notHere : name ≠ ".") (notUp : name ≠ "..") (level : Path.up ∉ back after)
    (leadLevel : ClimbsFirst (lead before)) : ClimbsFirst path.names.dropLast := by
  obtain ⟨climbs, rest, split, all, restLevel⟩ := leadLevel
  refine ⟨climbs, rest ++ (own before after name :: trail after).dropLast, ?_, all, ?_⟩
  · rw [placed.names notHere notUp, List.dropLast_append_cons, split, List.append_assoc]
  · intro member
    rcases List.mem_append.mp member with early | late
    · exact restLevel early
    · rcases List.mem_cons.mp (List.dropLast_subset _ late) with same | behind
      · exact (own_proper before after (stem_proper placed.stem).1 notHere notUp).2 same.symm
      · exact up_not_mem_trail level behind

/-- Targets of different stems share no places but those of the template. -/
theorem Placed.apart {otherSource otherPath : Path} {otherName : String}
    (placed : Placed template source path before after name)
    (otherPlaced : Placed template otherSource otherPath before after otherName)
    (proper : name ≠ "." ∧ name ≠ "..") (otherProper : otherName ≠ "." ∧ otherName ≠ "..")
    (level : Path.up ∉ back after) (different : name ≠ otherName) {place shared : Place}
    (member : shared ∈ route place path.names)
    (otherMember : shared ∈ route place otherPath.names) :
    shared ∈ route place (lead before) := by
  rcases placed.mem_route proper.1 proper.2 level member with common | below
  · exact common
  · rcases otherPlaced.mem_route otherProper.1 otherProper.2 level otherMember with
      common | otherBelow
    · exact common
    · have samePlace := List.prefix_of_prefix_length_le below otherBelow (by simp)
      have sameLength := List.IsPrefix.eq_of_length samePlace (by simp)
      have sameOwn := (List.append_inj' sameLength rfl).2
      exact absurd (own_injective before after (List.cons.inj sameOwn).1) different

end Template

end CompilerDriver
