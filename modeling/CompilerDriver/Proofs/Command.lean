import CompilerDriver.Command

/-!
Shown commands. A reader that follows the shell's rules for words finds in the shown form of a
command the very words of the command, and nothing outside quotes that the shell would take for more
than a letter. The rules are those for words alone: blanks and newlines part them, single quotes and
a backslash keep what they stand around or before. What a shell would do with the words is left out.
-/

namespace CompilerDriver.Command

/-- What a character of a line is there for. -/
inductive Role where
  | separator
  | bare
  | delimiter
  | escape
  | kept
  deriving Repr, DecidableEq

/-- Where a reader is when the next character comes. -/
inductive Standing where
  | outside
  | quoted
  | escaped
  deriving Repr, DecidableEq

def isSeparator (char : Char) : Bool :=
  char == ' ' || char == '\t' || char == '\n'

/-- The role of a character, and where the reader is behind it. -/
def role : Standing → Char → Role × Standing
  | .outside, char =>
      if isSeparator char then (.separator, .outside)
      else if char = '\'' then (.delimiter, .quoted)
      else if char = '\\' then (.escape, .escaped)
      else (.bare, .outside)
  | .quoted, char => if char = '\'' then (.delimiter, .outside) else (.kept, .quoted)
  | .escaped, _ => (.kept, .outside)

abbrev Marked := List (Role × Char)

def roles : Standing → List Char → Option Marked
  | .outside, [] => some []
  | .quoted, [] => none
  | .escaped, [] => none
  | standing, char :: rest =>
      (roles (role standing char).2 rest).map (((role standing char).1, char) :: ·)

/-- The words, where one may have begun already. Quotes begin a word even with nothing in them. -/
def gather : Option (List Char) → Marked → List (List Char)
  | begun, [] => begun.toList
  | begun, (.separator, _) :: rest => begun.toList ++ gather none rest
  | begun, (.delimiter, _) :: rest => gather (some (begun.getD [])) rest
  | begun, (.escape, _) :: rest => gather (some (begun.getD [])) rest
  | begun, (.bare, char) :: rest => gather (some (begun.getD [] ++ [char])) rest
  | begun, (.kept, char) :: rest => gather (some (begun.getD [] ++ [char])) rest

def splitWords? (line : String) : Option (List String) :=
  (roles .outside line.toList).map fun marked => (gather none marked).map String.ofList

/-- A piece of a line is read from one standing to another, whatever stands behind it. -/
def Passes (before : Standing) (piece : List Char) (marked : Marked) (after : Standing) : Prop :=
  ∀ rest, roles before (piece ++ rest) = (roles after rest).map (marked ++ ·)

variable {before between after : Standing} {piece next : List Char} {marked others : Marked}

theorem passes_nil (standing : Standing) : Passes standing [] [] standing := by
  intro rest
  have same : (fun later : Marked => [] ++ later) = id := rfl
  rw [same, Option.map_id]
  rfl

theorem passes_singleton (standing : Standing) (char : Char) :
    Passes standing [char] [((role standing char).1, char)] (role standing char).2 := by
  intro rest
  cases standing <;> rfl

theorem Passes.append (first : Passes before piece marked between)
    (second : Passes between next others after) :
    Passes before (piece ++ next) (marked ++ others) after := by
  intro rest
  rw [List.append_assoc, first, second, Option.map_map]
  congr 1
  funext later
  exact (List.append_assoc marked others later).symm

theorem chars_of_roles {standing : Standing} {line : List Char} {marked : Marked}
    (read : roles standing line = some marked) : marked.map Prod.snd = line := by
  induction line generalizing standing marked with
  | nil =>
      cases standing with
      | outside =>
          cases read
          rfl
      | quoted => cases read
      | escaped => cases read
  | cons char rest ih =>
      have first : roles standing (char :: rest) =
          (roles (role standing char).2 rest).map (((role standing char).1, char) :: ·) := by
        cases standing <;> rfl
      rw [first] at read
      obtain ⟨later, after, rfl⟩ := Option.map_eq_some_iff.mp read
      exact congrArg (char :: ·) (ih after)

theorem Passes.roles_eq (passes : Passes .outside piece marked .outside) :
    roles .outside piece = some marked := by
  have whole := passes []
  rw [List.append_nil] at whole
  rw [whole]
  exact congrArg some (List.append_nil marked)

/-! ### Words of the shown form -/

theorem isBlank_of_isSeparator {char : Char} (separates : isSeparator char = true) :
    Text.isBlank char = true := by
  unfold isSeparator at separates
  rw [Bool.or_eq_true, Bool.or_eq_true, beq_iff_eq, beq_iff_eq, beq_iff_eq] at separates
  rcases separates with (rfl | rfl) | rfl <;> rfl

theorem isSpecial_eq_false_iff (char : Char) :
    isSpecial char = false ↔ char ∉ specialChars ∧ Text.isBlank char = false := by
  unfold isSpecial
  rw [Bool.or_eq_false_iff, and_comm]
  simp

theorem needsQuotes_eq_false_iff (word : List Char) :
    needsQuotes word = false ↔
      word ≠ [] ∧ ∀ char ∈ word, char ∉ specialChars ∧ Text.isBlank char = false := by
  unfold needsQuotes
  rw [Bool.or_eq_false_iff, List.isEmpty_eq_false_iff, List.any_eq_false]
  simp only [Bool.not_eq_true, isSpecial_eq_false_iff]

theorem role_of_plain {char : Char} (plain : char ∉ specialChars)
    (solid : Text.isBlank char = false) : role .outside char = (.bare, .outside) := by
  have unseparated : ¬isSeparator char = true := by
    intro separates
    rw [isBlank_of_isSeparator separates] at solid
    cases solid
  have noQuote : char ≠ '\'' := by
    rintro rfl
    exact plain (by decide)
  have noEscape : char ≠ '\\' := by
    rintro rfl
    exact plain (by decide)
  simp only [role]
  rw [if_neg unseparated, if_neg noQuote, if_neg noEscape]

def letters (marked : Marked) : List Char :=
  marked.filterMap fun mark => if mark.1 = .bare ∨ mark.1 = .kept then some mark.2 else none

theorem gather_word {marked : Marked} (solid : ∀ mark ∈ marked, mark.1 ≠ .separator)
    (word : List Char) (rest : Marked) :
    gather (some word) (marked ++ rest) = gather (some (word ++ letters marked)) rest := by
  induction marked generalizing word with
  | nil => rw [List.nil_append, letters, List.filterMap_nil, List.append_nil]
  | cons mark marks ih =>
      obtain ⟨purpose, char⟩ := mark
      have first : purpose ≠ .separator := solid _ List.mem_cons_self
      have later := ih fun mark member => solid mark (List.mem_cons_of_mem _ member)
      cases purpose with
      | separator => exact absurd rfl first
      | delimiter => exact later word
      | escape => exact later word
      | bare =>
          have shifted := later (word ++ [char])
          rw [List.append_assoc] at shifted
          exact shifted
      | kept =>
          have shifted := later (word ++ [char])
          rw [List.append_assoc] at shifted
          exact shifted

theorem gather_begins {marked : Marked} (begins : marked ≠ [])
    (solid : ∀ mark ∈ marked, mark.1 ≠ .separator) (rest : Marked) :
    gather none (marked ++ rest) = gather (some (letters marked)) rest := by
  have filled := gather_word solid [] rest
  rw [List.nil_append] at filled
  rw [← filled]
  cases marked with
  | nil => exact absurd rfl begins
  | cons mark marks =>
      obtain ⟨purpose, char⟩ := mark
      cases purpose with
      | separator => exact absurd rfl (solid _ List.mem_cons_self)
      | _ => rfl

/-- How a reader takes a piece that stands for one word: it holds no separator, its letters are
those of the word, and those outside quotes mean nothing to a shell. -/
structure Spells (piece word : List Char) (marked : Marked) : Prop where
  passes : Passes .outside piece marked .outside
  begins : marked ≠ []
  solid : ∀ mark ∈ marked, mark.1 ≠ .separator
  means : letters marked = word
  harmless : ∀ char, (.bare, char) ∈ marked → char ∉ specialChars

theorem passes_plain {word : List Char}
    (plain : ∀ char ∈ word, char ∉ specialChars ∧ Text.isBlank char = false) :
    Passes .outside word (word.map fun char => (.bare, char)) .outside := by
  induction word with
  | nil => exact passes_nil .outside
  | cons char rest ih =>
      obtain ⟨harmless, solid⟩ := plain char List.mem_cons_self
      have first := passes_singleton .outside char
      rw [role_of_plain harmless solid] at first
      exact first.append (ih fun other member => plain other (List.mem_cons_of_mem _ member))

theorem letters_plain (word : List Char) :
    letters (word.map fun char => (.bare, char)) = word := by
  unfold letters
  rw [List.filterMap_map]
  exact List.filterMap_some

theorem spells_plain {word : List Char} (begins : word ≠ [])
    (plain : ∀ char ∈ word, char ∉ specialChars ∧ Text.isBlank char = false) :
    Spells word word (word.map fun char => (.bare, char)) := by
  refine ⟨passes_plain plain, ?_, ?_, letters_plain word, ?_⟩
  · intro nothing
    exact begins (List.map_eq_nil_iff.mp nothing)
  · intro mark member
    obtain ⟨char, _, rfl⟩ := List.mem_map.mp member
    exact Role.noConfusion
  · intro char member
    obtain ⟨other, inside, same⟩ := List.mem_map.mp member
    cases same
    exact (plain char inside).1

/-- A single quote closes the quotes, comes escaped, and opens them again. -/
def quotedMarks (char : Char) : Marked :=
  if char = '\'' then
    [(.delimiter, '\''), (.escape, '\\'), (.kept, '\''), (.delimiter, '\'')]
  else [(.kept, char)]

theorem passes_quoteChar (char : Char) :
    Passes .quoted (quoteChar char) (quotedMarks char) .quoted := by
  unfold quoteChar quotedMarks
  by_cases apostrophe : char = '\''
  · rw [if_pos apostrophe, if_pos apostrophe]
    have closed := passes_singleton .quoted '\''
    have escaped := passes_singleton .outside '\\'
    have kept := passes_singleton .escaped '\''
    have opened := passes_singleton .outside '\''
    exact closed.append (escaped.append (kept.append opened))
  · rw [if_neg apostrophe, if_neg apostrophe]
    have inside := passes_singleton .quoted char
    have stays : role .quoted char = (.kept, .quoted) := if_neg apostrophe
    rw [stays] at inside
    exact inside

theorem passes_quoted (word : List Char) :
    Passes .quoted (word.flatMap quoteChar) (word.flatMap quotedMarks) .quoted := by
  induction word with
  | nil => exact passes_nil .quoted
  | cons char rest ih => exact (passes_quoteChar char).append ih

theorem letters_append (marked others : Marked) :
    letters (marked ++ others) = letters marked ++ letters others :=
  List.filterMap_append

theorem letters_quotedMarks (char : Char) : letters (quotedMarks char) = [char] := by
  unfold quotedMarks
  by_cases apostrophe : char = '\''
  · rw [if_pos apostrophe, apostrophe]
    rfl
  · rw [if_neg apostrophe]
    rfl

theorem letters_quoted (word : List Char) : letters (word.flatMap quotedMarks) = word := by
  induction word with
  | nil => rfl
  | cons char rest ih =>
      rw [List.flatMap_cons, letters_append, letters_quotedMarks, ih]
      rfl

theorem sheltered_of_mem_quoted {word : List Char} {mark : Role × Char}
    (member : mark ∈ word.flatMap quotedMarks) : mark.1 ≠ .separator ∧ mark.1 ≠ .bare := by
  obtain ⟨char, _, inside⟩ := List.mem_flatMap.mp member
  unfold quotedMarks at inside
  split at inside
  · simp only [List.mem_cons, List.not_mem_nil, or_false] at inside
    rcases inside with rfl | rfl | rfl | rfl <;> exact ⟨Role.noConfusion, Role.noConfusion⟩
  · rw [List.mem_singleton.mp inside]
    exact ⟨Role.noConfusion, Role.noConfusion⟩

theorem spells_quoted (word : List Char) :
    Spells ('\'' :: (word.flatMap quoteChar ++ ['\''])) word
      ((.delimiter, '\'') :: (word.flatMap quotedMarks ++ [(.delimiter, '\'')])) := by
  have sheltered : ∀ mark ∈ ((.delimiter, '\'') ::
      (word.flatMap quotedMarks ++ [(.delimiter, '\'')]) : Marked),
      mark.1 ≠ .separator ∧ mark.1 ≠ .bare := by
    intro mark member
    rw [List.mem_cons, List.mem_append, List.mem_singleton] at member
    rcases member with rfl | inside | rfl
    · exact ⟨Role.noConfusion, Role.noConfusion⟩
    · exact sheltered_of_mem_quoted inside
    · exact ⟨Role.noConfusion, Role.noConfusion⟩
  have opened := passes_singleton .outside '\''
  have closed := passes_singleton .quoted '\''
  refine ⟨opened.append ((passes_quoted word).append closed), List.cons_ne_nil _ _, ?_, ?_, ?_⟩
  · exact fun mark member => (sheltered mark member).1
  · change letters ([(.delimiter, '\'')] ++ (word.flatMap quotedMarks ++ _)) = word
    rw [letters_append, letters_append, letters_quoted]
    exact List.append_nil word
  · exact fun char member => absurd rfl (sheltered _ member).2

theorem spells_quote (word : List Char) : ∃ marked, Spells (quote word) word marked := by
  unfold quote
  cases needs : needsQuotes word with
  | true => exact ⟨_, spells_quoted word⟩
  | false =>
      obtain ⟨begins, plain⟩ := (needsQuotes_eq_false_iff word).mp needs
      exact ⟨_, spells_plain begins plain⟩

theorem quote_eq_self_iff (word : List Char) :
    quote word = word ↔
      word ≠ [] ∧ ∀ char ∈ word, char ∉ specialChars ∧ Text.isBlank char = false := by
  rw [← needsQuotes_eq_false_iff]
  unfold quote
  cases needs : needsQuotes word with
  | false => simp
  | true =>
      have longer : word.length ≤ (word.flatMap quoteChar).length := by
        clear needs
        induction word with
        | nil => exact Nat.le_refl 0
        | cons char rest ih =>
            have someChars : 1 ≤ (quoteChar char).length := by
              unfold quoteChar
              split
              · decide
              · exact Nat.le_refl 1
            rw [List.flatMap_cons, List.length_append, List.length_cons]
            omega
      constructor
      · intro same
        have lengths := congrArg List.length same
        rw [if_pos rfl, List.length_cons, List.length_append] at lengths
        omega
      · intro impossible
        cases impossible

theorem words_of_render (words : List (List Char)) :
    ∃ marked, Passes .outside (renderWords words) marked .outside ∧ gather none marked = words ∧
      ∀ char, (.bare, char) ∈ marked → char ∉ specialChars := by
  unfold renderWords
  induction words with
  | nil => exact ⟨[], passes_nil .outside, rfl, fun char member => absurd member List.not_mem_nil⟩
  | cons word rest ih =>
      obtain ⟨first, spells⟩ := spells_quote word
      cases rest with
      | nil =>
          refine ⟨first, spells.passes, ?_, spells.harmless⟩
          have gathered := gather_begins spells.begins spells.solid []
          rw [List.append_nil, spells.means] at gathered
          exact gathered
      | cons next others =>
          obtain ⟨later, passes, gathered, harmless⟩ := ih
          have parted := passes_singleton .outside ' '
          refine ⟨first ++ ((.separator, ' ') :: later),
            spells.passes.append (parted.append passes), ?_, ?_⟩
          · rw [gather_begins spells.begins spells.solid, spells.means]
            change word :: gather none later = _
            rw [gathered]
          · intro char member
            rw [List.mem_append, List.mem_cons] at member
            rcases member with inside | separates | behind
            · exact spells.harmless char inside
            · cases separates
            · exact harmless char behind

theorem splitWords?_display (command : Command) :
    splitWords? command.display = some command.argv := by
  obtain ⟨marked, passes, gathered, _⟩ := words_of_render (command.argv.map String.toList)
  unfold splitWords? display
  rw [String.toList_ofList, passes.roles_eq, Option.map_some, gathered, List.map_map]
  have same : String.ofList ∘ String.toList = id := funext fun text => String.ofList_toList
  rw [same, List.map_id]

/-- The shown form of a command splits into the words of the command. Apart from the quotes that
stand around something and the backslashes that stand before something, it holds no character with a
meaning to a shell; and only words that need quotes have them. So the shown form tells commands
apart exactly as their words do. -/
theorem display_readable (command : Command) :
    splitWords? command.display = some command.argv ∧
      (∃ marked, roles .outside command.display.toList = some marked ∧
        marked.map Prod.snd = command.display.toList ∧
        ∀ char, (.bare, char) ∈ marked → char ∉ specialChars) ∧
      (∀ word, quote word = word ↔
        word ≠ [] ∧ ∀ char ∈ word, char ∉ specialChars ∧ Text.isBlank char = false) ∧
      ∀ other : Command, other.display = command.display ↔ other.argv = command.argv := by
  obtain ⟨marked, passes, _, harmless⟩ := words_of_render (command.argv.map String.toList)
  have shown : roles .outside command.display.toList = some marked := by
    unfold display
    rw [String.toList_ofList]
    exact passes.roles_eq
  refine ⟨splitWords?_display command, ⟨marked, shown, chars_of_roles shown, harmless⟩,
    quote_eq_self_iff, ?_⟩
  intro other
  constructor
  · intro same
    have split : splitWords? other.display = splitWords? command.display :=
      congrArg splitWords? same
    rw [splitWords?_display, splitWords?_display] at split
    exact Option.some.inj split
  · intro same
    unfold display
    rw [same]

/-- Words of nothing but a quote, of nothing at all and with a line break all come back. -/
example :
    splitWords? "''\\'''  '' 'a\nb' it\\'s" = some ["'", "", "a\nb", "it's"] := by
  decide +kernel

end CompilerDriver.Command
