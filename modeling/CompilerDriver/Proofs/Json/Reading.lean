import CompilerDriver.Json

/-!
JSON read back. The reader takes any layout, and every spelling of a string without escaped
surrogates, but of the numbers only the whole ones, since there are no others. What it makes of a
text is one value, with nothing behind it. The indented form of a value is read as that value.
-/

namespace CompilerDriver.Json

abbrev Reading (Value : Type) := List Char → Option (Value × List Char)

def isSpace (char : Char) : Bool :=
  char == ' ' || char == '\n' || char == '\r' || char == '\t'

def skip (text : List Char) : List Char :=
  text.dropWhile isSpace

theorem skip_append {blank : List Char} (spaces : ∀ char ∈ blank, isSpace char = true)
    (rest : List Char) : skip (blank ++ rest) = skip rest :=
  List.dropWhile_append_of_pos spaces

theorem skip_of_not_space {char : Char} (solid : isSpace char = false) (rest : List Char) :
    skip (char :: rest) = char :: rest := by
  unfold skip
  rw [List.dropWhile_cons, if_neg (by rw [solid]; exact Bool.false_ne_true)]

theorem newLine_spaces (depth : Nat) : ∀ char ∈ newLine depth, isSpace char = true := by
  intro char member
  rcases List.mem_cons.mp member with rfl | blank
  · rfl
  · rw [List.eq_of_mem_replicate blank]
    rfl

/-- What a reader of a string is in the middle of: an escape, or a code that still needs digits. -/
inductive Pending where
  | nothing
  | escape
  | code (needed value : Nat)

def plainEscapes : List (Char × Char) :=
  [('"', '"'), ('\\', '\\'), ('/', '/'), ('b', '\x08'), ('f', '\x0c'), ('n', '\n'), ('r', '\r'),
    ('t', '\t')]

def hexValue? (char : Char) : Option Nat :=
  if '0' ≤ char ∧ char ≤ '9' then some (char.toNat - 48)
  else if 'a' ≤ char ∧ char ≤ 'f' then some (char.toNat - 87)
  else if 'A' ≤ char ∧ char ≤ 'F' then some (char.toNat - 55)
  else none

def before (char : Char) (read : List Char × List Char) : List Char × List Char :=
  (char :: read.1, read.2)

def readText : Pending → Reading (List Char)
  | _, [] => none
  | .nothing, char :: rest =>
      if char = '"' then some ([], rest)
      else if char = '\\' then readText .escape rest
      else if char.toNat < 0x20 then none
      else (readText .nothing rest).map (before char)
  | .escape, char :: rest =>
      if char = 'u' then readText (.code 4 0) rest
      else
        match plainEscapes.lookup char with
        | some meant => (readText .nothing rest).map (before meant)
        | none => none
  | .code needed value, char :: rest =>
      match hexValue? char with
      | none => none
      | some digit =>
          let code := 16 * value + digit
          if 1 < needed then readText (.code (needed - 1) code) rest
          else if 0xD800 ≤ code ∧ code < 0xE000 then none
          else (readText .nothing rest).map (before (Char.ofNat code))

theorem readText_plain {letter meant : Char} (escape : plainEscapes.lookup letter = some meant)
    (rest : List Char) :
    readText .nothing ('\\' :: letter :: rest) = (readText .nothing rest).map (before meant) := by
  have other : letter ≠ 'u' := by
    rintro rfl
    cases escape
  rw [readText, if_neg (by decide), if_pos rfl, readText, if_neg other, escape]

theorem hexValue?_hexDigit {value : Nat} (small : value < 16) :
    hexValue? (hexDigit value) = some value := by
  have all : ∀ value < 16, hexValue? (hexDigit value) = some value := by decide
  exact all value small

theorem readText_code {char : Char} (small : char.toNat < 0x20) (rest : List Char) :
    readText .nothing
        ('\\' :: 'u' :: '0' :: '0' :: hexDigit (char.toNat / 16) :: hexDigit (char.toNat % 16) ::
          rest) =
      (readText .nothing rest).map (before char) := by
  have zero : hexValue? '0' = some 0 := rfl
  have high : hexValue? (hexDigit (char.toNat / 16)) = some (char.toNat / 16) :=
    hexValue?_hexDigit (by omega)
  have low : hexValue? (hexDigit (char.toNat % 16)) = some (char.toNat % 16) :=
    hexValue?_hexDigit (by omega)
  have whole : 16 * (char.toNat / 16) + char.toNat % 16 = char.toNat := by omega
  have lone : ¬(0xD800 ≤ char.toNat ∧ char.toNat < 0xE000) := by omega
  simp [readText, zero, high, low, whole, lone]

theorem escapeChar_cases (char : Char) :
    (∃ letter, plainEscapes.lookup letter = some char ∧ escapeChar char = ['\\', letter]) ∨
      (char.toNat < 0x20 ∧
        escapeChar char =
          ['\\', 'u', '0', '0', hexDigit (char.toNat / 16), hexDigit (char.toNat % 16)]) ∨
      (char ≠ '"' ∧ char ≠ '\\' ∧ ¬char.toNat < 0x20 ∧ escapeChar char = [char]) := by
  by_cases escaped : char ∈ plainEscapes.map Prod.snd
  · simp only [plainEscapes, List.map_cons, List.map_nil, List.mem_cons, List.not_mem_nil,
      or_false] at escaped
    rcases escaped with rfl | rfl | rfl | rfl | rfl | rfl | rfl | rfl
    · exact Or.inl ⟨'"', rfl, rfl⟩
    · exact Or.inl ⟨'\\', rfl, rfl⟩
    · exact Or.inr (Or.inr ⟨by decide, by decide, by decide, rfl⟩)
    · exact Or.inl ⟨'b', rfl, rfl⟩
    · exact Or.inl ⟨'f', rfl, rfl⟩
    · exact Or.inl ⟨'n', rfl, rfl⟩
    · exact Or.inl ⟨'r', rfl, rfl⟩
    · exact Or.inl ⟨'t', rfl, rfl⟩
  · simp only [plainEscapes, List.map_cons, List.map_nil, List.mem_cons, List.not_mem_nil,
      or_false, not_or] at escaped
    obtain ⟨quote, backslash, _, back, feed, line, carriage, tab⟩ := escaped
    unfold escapeChar
    rw [if_neg quote, if_neg backslash, if_neg back, if_neg feed, if_neg line, if_neg carriage,
      if_neg tab]
    by_cases small : char.toNat < 0x20
    · exact Or.inr (Or.inl ⟨small, if_pos small⟩)
    · exact Or.inr (Or.inr ⟨quote, backslash, small, if_neg small⟩)

theorem readText_escapeChar (char : Char) (rest : List Char) :
    readText .nothing (escapeChar char ++ rest) = (readText .nothing rest).map (before char) := by
  rcases escapeChar_cases char with
    ⟨letter, looked, written⟩ | ⟨small, written⟩ | ⟨quote, backslash, large, written⟩
  · rw [written]
    exact readText_plain looked rest
  · rw [written]
    exact readText_code small rest
  · rw [written, List.singleton_append, readText, if_neg quote, if_neg backslash, if_neg large]

theorem readText_flatMap (chars rest : List Char) :
    readText .nothing (chars.flatMap escapeChar ++ '"' :: rest) = some (chars, rest) := by
  induction chars with
  | nil => rfl
  | cons char chars ih =>
      rw [List.flatMap_cons, List.append_assoc, readText_escapeChar, ih]
      rfl

def readQuoted : Reading String
  | [] => none
  | opening :: rest =>
      if opening = '"' then
        (readText .nothing rest).map fun read => (String.ofList read.1, read.2)
      else none

theorem readQuoted_quoted (value : String) (rest : List Char) :
    readQuoted (quoted value ++ rest) = some (value, rest) := by
  unfold quoted
  rw [List.cons_append, List.append_assoc, readQuoted, if_pos rfl]
  have read := readText_flatMap value.toList rest
  rw [List.singleton_append, read, Option.map_some, String.ofList_toList]

/-- A text that a number in front of it does not run into. -/
def Clear (text : List Char) : Prop :=
  ∀ char ∈ text.head?, char.isDigit = false

def readDigits : Reading Nat := fun text =>
  let digits := text.takeWhile Char.isDigit
  if digits = [] ∨ digits.head? = some '0' ∧ digits ≠ ['0'] then none
  else some (Nat.ofDigitChars 10 digits 0, text.dropWhile Char.isDigit)

def readNumber : Reading Int
  | [] => none
  | char :: rest =>
      if char = '-' then (readDigits rest).map fun read => (-(read.1 : Int), read.2)
      else (readDigits (char :: rest)).map fun read => ((read.1 : Int), read.2)

theorem head?_toDigits {value : Nat} (positive : 0 < value) :
    (Nat.toDigits 10 value).head? ≠ some '0' := by
  induction value using Nat.strongRecOn with
  | _ value ih =>
      by_cases single : value < 10
      · have all : ∀ value < 10, 0 < value → some value.digitChar ≠ some '0' := by decide
        rw [Nat.toDigits_of_lt_base single]
        exact all value single positive
      · have earlier : (Nat.toDigits 10 (value / 10)).head? ≠ some '0' :=
          ih (value / 10) (by omega) (by omega)
        rw [Nat.toDigits_of_base_le (by omega) (by omega), List.head?_append]
        cases headed : (Nat.toDigits 10 (value / 10)).head? with
        | none => exact absurd (List.head?_eq_none_iff.mp headed) Nat.toDigits_ne_nil
        | some first =>
            rw [headed] at earlier
            exact earlier

theorem takeWhile_toDigits (value : Nat) {rest : List Char} (clear : Clear rest) :
    (Nat.toDigits 10 value ++ rest).takeWhile Char.isDigit = Nat.toDigits 10 value ∧
      (Nat.toDigits 10 value ++ rest).dropWhile Char.isDigit = rest := by
  have digits : ∀ char ∈ Nat.toDigits 10 value, char.isDigit = true := fun char member =>
    Nat.isDigit_of_mem_toDigits (by decide) (by decide) member
  rw [List.takeWhile_append_of_pos digits, List.dropWhile_append_of_pos digits]
  cases rest with
  | nil => exact ⟨List.append_nil _, rfl⟩
  | cons char rest =>
      have solid := clear char rfl
      simp [solid]

theorem readDigits_toDigits (value : Nat) {rest : List Char} (clear : Clear rest) :
    readDigits (Nat.toDigits 10 value ++ rest) = some (value, rest) := by
  obtain ⟨taken, dropped⟩ := takeWhile_toDigits value clear
  have proper : ¬(Nat.toDigits 10 value = [] ∨
      (Nat.toDigits 10 value).head? = some '0' ∧ Nat.toDigits 10 value ≠ ['0']) := by
    rintro (empty | ⟨zero, more⟩)
    · exact Nat.toDigits_ne_nil empty
    · rcases Nat.eq_zero_or_pos value with rfl | positive
      · exact more rfl
      · exact head?_toDigits positive zero
  unfold readDigits
  simp only [taken, dropped]
  rw [if_neg proper, Nat.ofDigitChars_toDigits (by decide) (by decide)]

def special : List Char :=
  ['"', '[', ']', '\x7b', '\x7d', 'n', 't', 'f']

theorem digit_solid {char : Char} (digit : char.isDigit = true) :
    isSpace char = false ∧ char ∉ special := by
  have distinct : ∀ other, other.isDigit = false → char ≠ other := by
    rintro other solid rfl
    rw [solid] at digit
    cases digit
  constructor
  · unfold isSpace
    simp [distinct ' ' rfl, distinct '\n' rfl, distinct '\r' rfl, distinct '\t' rfl]
  · intro member
    have noneDigit : special.all (fun other => !other.isDigit) = true := rfl
    have other := List.all_eq_true.mp noneDigit char member
    rw [digit] at other
    cases other

theorem digits_head (value : Int) :
    ∃ first others, digits value = first :: others ∧ isSpace first = false ∧ first ∉ special := by
  cases value with
  | ofNat magnitude =>
      cases printed : Nat.toDigits 10 magnitude with
      | nil => exact absurd printed Nat.toDigits_ne_nil
      | cons first others =>
          have member : first ∈ Nat.toDigits 10 magnitude := printed ▸ List.mem_cons_self
          exact ⟨first, others, printed,
            digit_solid (Nat.isDigit_of_mem_toDigits (by decide) (by decide) member)⟩
  | negSucc below => exact ⟨'-', _, rfl, rfl, by decide⟩

theorem readNumber_digits (value : Int) {rest : List Char} (clear : Clear rest) :
    readNumber (digits value ++ rest) = some (value, rest) := by
  cases value with
  | ofNat magnitude =>
      -- A sign in front would leave no digits to read.
      have read := readDigits_toDigits magnitude clear
      change readNumber (Nat.toDigits 10 magnitude ++ rest) = _
      cases printed : Nat.toDigits 10 magnitude ++ rest with
      | nil => exact absurd (List.append_eq_nil_iff.mp printed).1 Nat.toDigits_ne_nil
      | cons first others =>
          rw [printed] at read
          have unsigned : first ≠ '-' := by
            rintro rfl
            cases read
          rw [readNumber, if_neg unsigned, read]
          rfl
  | negSucc below =>
      change readNumber ('-' :: (Nat.toDigits 10 (below + 1) ++ rest)) = _
      rw [readNumber, if_pos rfl, readDigits_toDigits _ clear]
      rfl

section Series

variable {Item : Type}

def readSeries (element : Reading Item) (closing : Char) : Nat → Reading (List Item)
  | 0, _ => none
  | fuel + 1, chars =>
      match element chars with
      | none => none
      | some (item, left) =>
          match skip left with
          | [] => none
          | char :: next =>
              if char = ',' then
                (readSeries element closing fuel next).map fun read => (item :: read.1, read.2)
              else if char = closing then some ([item], next)
              else none

def readEnclosed (element : Reading Item) (closing : Char) (fuel : Nat) : Reading (List Item) :=
  fun chars =>
    match skip chars with
    | [] => none
    | char :: rest =>
        if char = closing then some ([], rest) else readSeries element closing fuel chars

def lines (depth : Nat) (print : Item → List Char) (items : List Item) : List Char :=
  [','].intercalate (items.map fun item => newLine depth ++ print item)

variable {depth : Nat} {print : Item → List Char}

theorem lines_singleton (item : Item) : lines depth print [item] = newLine depth ++ print item := by
  unfold lines
  rw [List.map_singleton, List.intercalate_singleton]

theorem lines_cons_cons (first second : Item) (others : List Item) :
    lines depth print (first :: second :: others) =
      newLine depth ++ (print first ++ ',' :: lines depth print (second :: others)) := by
  unfold lines
  simp only [List.map_cons, List.intercalate_cons_cons, List.append_assoc, List.singleton_append]

theorem lines_cons (first : Item) (others : List Item) :
    ∃ tail, lines depth print (first :: others) = newLine depth ++ (print first ++ tail) := by
  cases others with
  | nil => exact ⟨[], by rw [lines_singleton, List.append_nil]⟩
  | cons second others => exact ⟨_, lines_cons_cons first second others⟩

theorem length_le_lines (items : List Item) : items.length ≤ (lines depth print items).length := by
  induction items with
  | nil => exact Nat.zero_le _
  | cons first others ih =>
      cases others with
      | nil =>
          rw [lines_singleton, newLine]
          simp
      | cons second others =>
          rw [lines_cons_cons]
          simp only [List.length_append, List.length_cons] at ih ⊢
          omega

theorem length_print_le_lines {item : Item} {items : List Item} (member : item ∈ items) :
    (print item).length ≤ (lines depth print items).length := by
  induction items with
  | nil => exact absurd member List.not_mem_nil
  | cons first others ih =>
      rcases List.mem_cons.mp member with rfl | later
      · obtain ⟨tail, same⟩ := lines_cons item others
        rw [same, List.length_append, List.length_append]
        omega
      · cases others with
        | nil => exact absurd later List.not_mem_nil
        | cons second others =>
            have shorter := ih later
            rw [lines_cons_cons]
            simp only [List.length_append, List.length_cons]
            omega

/-- An element is read off any text that its printed form does not run into. -/
def Reads (element : Reading Item) (printed : List Char) (item : Item) : Prop :=
  ∀ rest, Clear rest → element (printed ++ rest) = some (item, rest)

theorem clear_cons {char : Char} (solid : char.isDigit = false) (rest : List Char) :
    Clear (char :: rest) := by
  intro other same
  cases same
  exact solid

/-- A reader does not mind the blanks in front of an element. -/
def Skips (element : Reading Item) : Prop :=
  ∀ blank rest, (∀ char ∈ blank, isSpace char = true) → element (blank ++ rest) = element rest

variable {element : Reading Item} {closing : Char}

theorem readSeries_lines (skips : Skips element) (ends : closing ≠ ',')
    (solid : isSpace closing = false) (outer : Nat) (rest : List Char) {items : List Item}
    (read : ∀ item ∈ items, Reads element (print item) item) (given : items ≠ []) {fuel : Nat}
    (enough : items.length ≤ fuel) :
    readSeries element closing fuel
        (lines depth print items ++ (newLine outer ++ closing :: rest)) = some (items, rest) := by
  induction items generalizing fuel with
  | nil => exact absurd rfl given
  | cons first others ih =>
      obtain ⟨fuel, rfl⟩ : ∃ less, fuel = less + 1 :=
        ⟨fuel - 1, by rw [List.length_cons] at enough; omega⟩
      have head : Reads element (print first) first := read first List.mem_cons_self
      rw [readSeries]
      cases others with
      | nil =>
          have clear : Clear (newLine outer ++ closing :: rest) := clear_cons rfl _
          rw [lines_singleton, List.append_assoc, skips _ _ (newLine_spaces depth), head _ clear]
          simp only [skip_append (newLine_spaces outer), skip_of_not_space solid, if_neg ends,
            if_true]
      | cons second others =>
          have tail : ∀ item ∈ second :: others, Reads element (print item) item :=
            fun item member => read item (List.mem_cons_of_mem first member)
          have left := ih tail (List.cons_ne_nil _ _) (Nat.le_of_succ_le_succ enough)
          rw [lines_cons_cons, List.append_assoc, List.append_assoc,
            skips _ _ (newLine_spaces depth), List.cons_append, head _ (clear_cons rfl _)]
          simp only [skip_of_not_space (rfl : isSpace ',' = false), if_true, left]
          rfl

theorem readEnclosed_lines (skips : Skips element) (ends : closing ≠ ',')
    (solid : isSpace closing = false) (outer : Nat) (rest : List Char) {first : Item}
    {others : List Item} (read : ∀ item ∈ first :: others, Reads element (print item) item)
    (opens : ∃ char tail, print first = char :: tail ∧ isSpace char = false ∧ char ≠ closing)
    {fuel : Nat} (enough : (lines depth print (first :: others)).length ≤ fuel) :
    readEnclosed element closing fuel
        (lines depth print (first :: others) ++ (newLine outer ++ closing :: rest)) =
      some (first :: others, rest) := by
  obtain ⟨char, left, printed, dark, other⟩ := opens
  obtain ⟨tail, begins⟩ := lines_cons first others
  have skipped : skip (lines depth print (first :: others) ++ (newLine outer ++ closing :: rest)) =
      char :: (left ++ tail ++ (newLine outer ++ closing :: rest)) := by
    rw [begins, List.append_assoc, skip_append (newLine_spaces depth), printed]
    exact skip_of_not_space dark _
  unfold readEnclosed
  rw [skipped]
  simp only [if_neg other]
  exact readSeries_lines skips ends solid outer rest read (List.cons_ne_nil _ _)
    (Nat.le_trans (length_le_lines _) enough)

end Series

/-! ### Values -/

def readField (value : Reading Json) : Reading (String × Json) := fun chars =>
  match readQuoted (skip chars) with
  | none => none
  | some (name, left) =>
      match skip left with
      | [] => none
      | colon :: next =>
          if colon = ':' then (value next).map fun read => ((name, read.1), read.2) else none

def readWord (word : List Char) (meant : Json) : Reading Json := fun chars =>
  if word.isPrefixOf chars then some (meant, chars.drop word.length) else none

/-- A value that is nested no deeper, and has no longer series, than there is fuel. -/
def readValue : Nat → Reading Json
  | 0, _ => none
  | fuel + 1, chars =>
      match skip chars with
      | [] => none
      | char :: rest =>
          if char = '"' then
            (readQuoted (char :: rest)).map fun read => (.text read.1, read.2)
          else if char = '[' then
            (readEnclosed (readValue fuel) ']' fuel rest).map fun read => (.array read.1, read.2)
          else if char = '\x7b' then
            (readEnclosed (readField (readValue fuel)) '\x7d' fuel rest).map fun read =>
              (.object read.1, read.2)
          else if char = 'n' then readWord ['n', 'u', 'l', 'l'] .null (char :: rest)
          else if char = 't' then readWord ['t', 'r', 'u', 'e'] (.boolean true) (char :: rest)
          else if char = 'f' then
            readWord ['f', 'a', 'l', 's', 'e'] (.boolean false) (char :: rest)
          else (readNumber (char :: rest)).map fun read => (.number read.1, read.2)

/-- The value that a text is the form of, when there is nothing else in it. -/
def read? (document : String) : Option Json :=
  match readValue document.toList.length document.toList with
  | some (json, rest) => if skip rest = [] then some json else none
  | none => none

theorem readValue_skips (fuel : Nat) : Skips (readValue fuel) := by
  intro blank rest spaces
  cases fuel with
  | zero => rfl
  | succ fuel => rw [readValue, readValue, skip_append spaces]

theorem readField_skips (value : Reading Json) : Skips (readField value) := by
  intro blank rest spaces
  unfold readField
  rw [skip_append spaces]

theorem readValue_array (fuel : Nat) (rest : List Char) :
    readValue (fuel + 1) ('[' :: rest) =
      (readEnclosed (readValue fuel) ']' fuel rest).map fun read => (.array read.1, read.2) := rfl

theorem readValue_object (fuel : Nat) (rest : List Char) :
    readValue (fuel + 1) ('\x7b' :: rest) =
      (readEnclosed (readField (readValue fuel)) '\x7d' fuel rest).map fun read =>
        (.object read.1, read.2) := rfl

theorem prettyItems_eq (depth : Nat) (items : List Json) :
    prettyItems depth items = lines depth (prettyChars depth) items := by
  induction items with
  | nil => rfl
  | cons first others ih =>
      cases others with
      | nil => rw [prettyItems, lines_singleton]
      | cons second others => rw [prettyItems, ih, lines_cons_cons, List.append_assoc]

def fieldChars (depth : Nat) (field : String × Json) : List Char :=
  quoted field.1 ++ ':' :: ' ' :: prettyChars depth field.2

theorem prettyFields_eq (depth : Nat) (fields : List (String × Json)) :
    prettyFields depth fields = lines depth (fieldChars depth) fields := by
  induction fields with
  | nil => rfl
  | cons first others ih =>
      cases others with
      | nil => simp [prettyFields, lines_singleton, fieldChars]
      | cons second others => simp [prettyFields, ih, lines_cons_cons, fieldChars]

theorem prettyChars_head (depth : Nat) (json : Json) :
    ∃ first others, prettyChars depth json = first :: others ∧
      isSpace first = false ∧ first ≠ ']' := by
  cases json with
  | null => exact ⟨_, _, rfl, rfl, by decide⟩
  | boolean value => cases value <;> exact ⟨_, _, rfl, rfl, by decide⟩
  | number value =>
      obtain ⟨first, others, printed, solid, plain⟩ := digits_head value
      refine ⟨first, others, printed, solid, ?_⟩
      rintro rfl
      exact plain (by decide)
  | text value => exact ⟨_, _, rfl, rfl, by decide⟩
  | array items => cases items <;> exact ⟨_, _, rfl, rfl, by decide⟩
  | object fields => cases fields <;> exact ⟨_, _, rfl, rfl, by decide⟩

theorem reads_number (value : Int) (fuel : Nat) :
    Reads (readValue (fuel + 1)) (digits value) (.number value) := by
  intro rest clear
  obtain ⟨first, others, printed, solid, plain⟩ := digits_head value
  have read := readNumber_digits value clear
  simp only [special, List.mem_cons, List.not_mem_nil, or_false, not_or] at plain
  obtain ⟨quote, bracket, _, brace, _, null, yes, no⟩ := plain
  rw [printed, List.cons_append] at read ⊢
  rw [readValue, skip_of_not_space solid]
  simp only [if_neg quote, if_neg bracket, if_neg brace, if_neg null, if_neg yes, if_neg no, read]
  rfl

theorem reads_text (value : String) (fuel : Nat) :
    Reads (readValue (fuel + 1)) (quoted value) (.text value) := by
  intro rest _
  have skipped : skip (quoted value ++ rest) = quoted value ++ rest := skip_of_not_space rfl _
  have read := readQuoted_quoted value rest
  rw [readValue, skipped]
  unfold quoted at read ⊢
  simp only [List.cons_append] at read ⊢
  rw [if_pos trivial, read]
  rfl

theorem reads_field {depth fuel : Nat} {field : String × Json}
    (read : Reads (readValue fuel) (prettyChars depth field.2) field.2) :
    Reads (readField (readValue fuel)) (fieldChars depth field) field := by
  intro rest clear
  have value : readValue fuel (' ' :: (prettyChars depth field.2 ++ rest)) =
      some (field.2, rest) := by
    have blank : ∀ char ∈ [' '], isSpace char = true := List.forall_mem_singleton.mpr rfl
    rw [← List.singleton_append, readValue_skips fuel _ _ blank]
    exact read rest clear
  have name : readQuoted (skip (fieldChars depth field ++ rest)) =
      some (field.1, ':' :: ' ' :: (prettyChars depth field.2 ++ rest)) := by
    have solid : skip (fieldChars depth field ++ rest) = fieldChars depth field ++ rest :=
      skip_of_not_space rfl _
    rw [solid, fieldChars, List.append_assoc, readQuoted_quoted]
    rfl
  unfold readField
  rw [name]
  simp only [skip_of_not_space (rfl : isSpace ':' = false), if_true, value]
  rfl

/-- As much fuel as its indented form has characters is enough for a value. -/
def Sufficed (json : Json) : Prop :=
  ∀ depth fuel, (prettyChars depth json).length ≤ fuel →
    Reads (readValue fuel) (prettyChars depth json) json

theorem Sufficed.of_succ {json : Json}
    (read : ∀ depth fuel, (prettyChars depth json).length ≤ fuel + 1 →
      Reads (readValue (fuel + 1)) (prettyChars depth json) json) : Sufficed json := by
  intro depth fuel enough
  cases fuel with
  | zero =>
      obtain ⟨first, others, printed, _⟩ := prettyChars_head depth json
      rw [printed] at enough
      exact absurd enough (Nat.not_succ_le_zero _)
  | succ fuel => exact read depth fuel enough

theorem sufficed_array {items : List Json} (below : ∀ item ∈ items, Sufficed item) :
    Sufficed (.array items) := by
  refine Sufficed.of_succ fun depth fuel enough rest _ => ?_
  cases items with
  | nil => rfl
  | cons first others =>
      rw [prettyChars, prettyItems_eq] at enough ⊢
      -- The opening bracket costs one unit of fuel and is one character of the form.
      have room : (lines (depth + 1) (prettyChars (depth + 1)) (first :: others)).length ≤ fuel := by
        simp only [List.length_cons, List.length_append] at enough
        omega
      have read : ∀ item ∈ first :: others,
          Reads (readValue fuel) (prettyChars (depth + 1) item) item := fun item member =>
        below item member (depth + 1) fuel (Nat.le_trans (length_print_le_lines member) room)
      have enclosed := readEnclosed_lines (readValue_skips fuel) (by decide) rfl depth rest read
        (prettyChars_head (depth + 1) first) room
      rw [List.cons_append, readValue_array, List.append_assoc, List.append_assoc,
        List.singleton_append, enclosed]
      rfl

theorem sufficed_object {fields : List (String × Json)}
    (below : ∀ field ∈ fields, Sufficed field.2) : Sufficed (.object fields) := by
  refine Sufficed.of_succ fun depth fuel enough rest _ => ?_
  cases fields with
  | nil => rfl
  | cons first others =>
      rw [prettyChars, prettyFields_eq] at enough ⊢
      have room : (lines (depth + 1) (fieldChars (depth + 1)) (first :: others)).length ≤ fuel := by
        simp only [List.length_cons, List.length_append] at enough
        omega
      have read : ∀ field ∈ first :: others,
          Reads (readField (readValue fuel)) (fieldChars (depth + 1) field) field := by
        intro field member
        have shorter : (fieldChars (depth + 1) field).length ≤ fuel :=
          Nat.le_trans (length_print_le_lines member) room
        simp only [fieldChars, List.length_append, List.length_cons] at shorter
        exact reads_field (below field member (depth + 1) fuel (by omega))
      have enclosed := readEnclosed_lines (readField_skips _) (by decide : '\x7d' ≠ ',') rfl depth
        rest read ⟨'"', _, rfl, rfl, by decide⟩ room
      rw [List.cons_append, readValue_object, List.append_assoc, List.append_assoc,
        List.singleton_append, enclosed]
      rfl

/-- What holds of a value may be shown from the values right below it. -/
@[elab_as_elim]
theorem induction {motive : Json → Prop} (null : motive .null)
    (boolean : ∀ value, motive (.boolean value)) (number : ∀ value, motive (.number value))
    (text : ∀ value, motive (.text value))
    (array : ∀ items, (∀ item ∈ items, motive item) → motive (.array items))
    (object : ∀ fields, (∀ field ∈ fields, motive field.2) → motive (.object fields)) :
    ∀ json, motive json
  | .null => null
  | .boolean value => boolean value
  | .number value => number value
  | .text value => text value
  | .array items => array items fun item _ =>
      induction null boolean number text array object item
  | .object fields => object fields fun field _ =>
      induction null boolean number text array object field.2
termination_by json => sizeOf json
decreasing_by
  · have smaller := List.sizeOf_lt_of_mem ‹item ∈ items›
    simp only [Json.array.sizeOf_spec]
    omega
  · have smaller := List.sizeOf_lt_of_mem ‹field ∈ fields›
    have part : sizeOf field = 1 + sizeOf field.1 + sizeOf field.2 := by
      cases field
      rfl
    simp only [Json.object.sizeOf_spec]
    omega

theorem sufficed (json : Json) : Sufficed json := by
  induction json using Json.induction with
  | null => exact Sufficed.of_succ fun _ _ _ _ _ => rfl
  | boolean value => cases value <;> exact Sufficed.of_succ fun _ _ _ _ _ => rfl
  | number value => exact Sufficed.of_succ fun _ fuel _ => reads_number value fuel
  | text value => exact Sufficed.of_succ fun _ fuel _ => reads_text value fuel
  | array items below => exact sufficed_array below
  | object fields below => exact sufficed_object below

/-- The indented form of a value is read as that value, with any blanks behind it. -/
theorem read?_pretty (json : Json) {ending : String}
    (spaces : ∀ char ∈ ending.toList, isSpace char = true) :
    read? (json.pretty ++ ending) = some json := by
  have chars : (json.pretty ++ ending).toList = json.prettyChars 0 ++ ending.toList := by
    rw [String.toList_append, pretty, String.toList_ofList]
  have clear : Clear ending.toList := by
    intro char first
    cases digit : char.isDigit with
    | false => rfl
    | true =>
        have space := spaces char (List.mem_of_mem_head? first)
        rw [(digit_solid digit).1] at space
        cases space
  have blank : skip ending.toList = [] := by
    have skipped := skip_append spaces []
    rwa [List.append_nil] at skipped
  have enough : (json.prettyChars 0).length ≤ (json.prettyChars 0 ++ ending.toList).length := by
    rw [List.length_append]
    exact Nat.le_add_right _ _
  unfold read?
  rw [chars, sufficed json 0 _ enough ending.toList clear]
  simp only [blank, if_true]

end CompilerDriver.Json
