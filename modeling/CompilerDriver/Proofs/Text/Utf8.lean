import CompilerDriver.Text.Utf8
import Mathlib.Logic.Function.Basic

/-!
Reading what was written. Every character is read back from its bytes, whatever comes behind them,
so writing is injective. A byte below `0x80` is written and read for no character but its own.
-/

namespace CompilerDriver.Text.Utf8

theorem toNat_ofNat {value : Nat} (small : value < 256) : (UInt8.ofNat value).toNat = value := by
  rw [UInt8.toNat_ofNat']
  exact Nat.mod_eq_of_lt small

theorem toNat_cases (char : Char) :
    char.toNat < 0xD800 ∨ 0xDFFF < char.toNat ∧ char.toNat < 0x110000 :=
  char.valid

theorem opening_two {value : Nat} (least : 0xC2 ≤ value) (most : value < 0xE0) :
    opening (UInt8.ofNat value) = .begins ⟨1, 0x80, 0xBF, value - 0xC0⟩ := by
  simp only [opening, toNat_ofNat (show value < 256 by omega)]
  rw [if_neg (by omega), if_neg (by omega), if_pos most]

theorem opening_three {value : Nat} (least : 0xE0 ≤ value) (most : value < 0xF0) :
    opening (UInt8.ofNat value) =
      .begins ⟨2, if value = 0xE0 then 0xA0 else 0x80, if value = 0xED then 0x9F else 0xBF,
        value - 0xE0⟩ := by
  simp only [opening, toNat_ofNat (show value < 256 by omega)]
  rw [if_neg (by omega), if_neg (by omega), if_neg (by omega)]
  by_cases first : value = 0xE0
  · subst first
    rfl
  · by_cases surrogate : value = 0xED
    · subst surrogate
      rfl
    · rw [if_neg first, if_neg first, if_neg surrogate, if_neg surrogate, if_pos most]

theorem opening_four {value : Nat} (least : 0xF0 ≤ value) (most : value < 0xF5) :
    opening (UInt8.ofNat value) =
      .begins ⟨3, if value = 0xF0 then 0x90 else 0x80, if value = 0xF4 then 0x8F else 0xBF,
        value - 0xF0⟩ := by
  simp only [opening, toNat_ofNat (show value < 256 by omega)]
  rw [if_neg (by omega), if_neg (by omega), if_neg (by omega), if_neg (by omega),
    if_neg (by omega), if_neg (by omega)]
  by_cases first : value = 0xF0
  · subst first
    rfl
  · by_cases last : value = 0xF4
    · subst last
      rfl
    · rw [if_neg first, if_neg first, if_neg last, if_neg last, if_pos (by omega)]

theorem readFrom_begins {value : Nat} {begun : Begun}
    (begins : opening (UInt8.ofNat value) = .begins begun) (rest : Bytes) :
    readFrom none (UInt8.ofNat value :: rest) = readFrom (some begun) rest := by
  simp only [readFrom, begins]

theorem readFrom_within {begun : Begun} {value : Nat} (low : begun.low ≤ value)
    (high : value ≤ begun.high) (small : value < 256) (rest : Bytes) :
    readFrom (some begun) (UInt8.ofNat value :: rest) =
      if begun.needed ≤ 1 then
        Char.ofNat (begun.code * 64 + (value - 0x80)) :: readFrom none rest
      else
        readFrom (some ⟨begun.needed - 1, 0x80, 0xBF, begun.code * 64 + (value - 0x80)⟩) rest := by
  have within : begun.low ≤ (UInt8.ofNat value).toNat ∧ (UInt8.ofNat value).toNat ≤ begun.high := by
    rw [toNat_ofNat small]
    exact ⟨low, high⟩
  rw [readFrom, if_pos within, toNat_ofNat small]

theorem readFrom_encodeChar (char : Char) (rest : Bytes) :
    readFrom none (encodeChar char ++ rest) = char :: readFrom none rest := by
  have valid := toNat_cases char
  have whole := Char.ofNat_toNat char
  unfold encodeChar
  simp only
  generalize char.toNat = code at valid whole
  by_cases one : code < 0x80
  · rw [if_pos one]
    simp only [List.cons_append, List.nil_append, readFrom, opening,
      toNat_ofNat (show code < 256 by omega), if_pos one, whole]
  · rw [if_neg one]
    by_cases two : code < 0x800
    · rw [if_pos two, List.cons_append, List.cons_append, List.nil_append,
        readFrom_begins (opening_two (by omega) (by omega)),
        readFrom_within (by simp only; omega) (by simp only; omega) (by omega), if_pos (by simp)]
      simp only
      rw [show (0xC0 + code / 64 - 0xC0) * 64 + (0x80 + code % 64 - 0x80) = code by omega, whole]
    · rw [if_neg two]
      by_cases three : code < 0x10000
      · rw [if_pos three, List.cons_append, List.cons_append, List.cons_append, List.nil_append,
          readFrom_begins (opening_three (by omega) (by omega)),
          readFrom_within (by simp only; split <;> omega) (by simp only; split <;> omega) (by omega),
          if_neg (by simp),
          readFrom_within (by simp only; omega) (by simp only; omega) (by omega), if_pos (by simp)]
        simp only
        rw [show ((0xE0 + code / 4096 - 0xE0) * 64 + (0x80 + code / 64 % 64 - 0x80)) * 64 +
          (0x80 + code % 64 - 0x80) = code by omega, whole]
      · rw [if_neg three, List.cons_append, List.cons_append, List.cons_append, List.cons_append,
          List.nil_append, readFrom_begins (opening_four (by omega) (by omega)),
          readFrom_within (by simp only; split <;> omega) (by simp only; split <;> omega) (by omega),
          if_neg (by simp),
          readFrom_within (by simp only; omega) (by simp only; omega) (by omega), if_neg (by simp),
          readFrom_within (by simp only; omega) (by simp only; omega) (by omega), if_pos (by simp)]
        simp only
        rw [show (((0xF0 + code / 262144 - 0xF0) * 64 + (0x80 + code / 4096 % 64 - 0x80)) * 64 +
          (0x80 + code / 64 % 64 - 0x80)) * 64 + (0x80 + code % 64 - 0x80) = code by omega, whole]

theorem lossyChars_encodeChars (chars : List Char) : lossyChars (encodeChars chars) = chars := by
  induction chars with
  | nil => rfl
  | cons char rest ih =>
      unfold lossyChars at ih ⊢
      rw [encodeChars_cons, readFrom_encodeChar, ih]

theorem encodeChars_injective : Function.Injective encodeChars :=
  Function.LeftInverse.injective lossyChars_encodeChars

theorem encode_injective : Function.Injective encode := by
  intro left right same
  exact String.toList_injective (encodeChars_injective same)

theorem decode?_encode (text : String) : decode? (encode text) = some text := by
  have read : lossyChars (encode text) = text.toList := lossyChars_encodeChars text.toList
  have plain : isText (encode text) = true := by
    unfold isText
    rw [read]
    exact beq_self_eq_true _
  unfold decode? lossy
  rw [if_pos plain, read, String.ofList_toList]

theorem encode_of_decode? {bytes : Bytes} {text : String} (read : decode? bytes = some text) :
    encode text = bytes := by
  unfold decode? at read
  split at read
  case isTrue plain =>
    cases read
    unfold encode lossy
    rw [String.toList_ofList]
    exact beq_iff_eq.mp plain
  case isFalse =>
    cases read

/-! ### Small bytes -/

theorem encodeChar_small {char : Char} {byte : UInt8} (small : byte.toNat < 0x80)
    (member : byte ∈ encodeChar char) : char.toNat = byte.toNat := by
  have valid := toNat_cases char
  unfold encodeChar at member
  simp only at member
  generalize char.toNat = code at valid member ⊢
  have large : ∀ value, 0x80 ≤ value → value < 256 → byte ≠ UInt8.ofNat value := by
    intro value least most same
    rw [same, toNat_ofNat most] at small
    omega
  by_cases one : code < 0x80
  · rw [if_pos one] at member
    rw [List.mem_singleton.mp member, toNat_ofNat (by omega)]
  · rw [if_neg one] at member
    by_cases two : code < 0x800
    · rw [if_pos two] at member
      simp only [List.mem_cons, List.not_mem_nil, or_false] at member
      rcases member with same | same
      · exact absurd same (large _ (by omega) (by omega))
      · exact absurd same (large _ (by omega) (by omega))
    · rw [if_neg two] at member
      by_cases three : code < 0x10000
      · rw [if_pos three] at member
        simp only [List.mem_cons, List.not_mem_nil, or_false] at member
        rcases member with same | same | same
        · exact absurd same (large _ (by omega) (by omega))
        · exact absurd same (large _ (by omega) (by omega))
        · exact absurd same (large _ (by omega) (by omega))
      · rw [if_neg three] at member
        simp only [List.mem_cons, List.not_mem_nil, or_false] at member
        rcases member with same | same | same | same
        · exact absurd same (large _ (by omega) (by omega))
        · exact absurd same (large _ (by omega) (by omega))
        · exact absurd same (large _ (by omega) (by omega))
        · exact absurd same (large _ (by omega) (by omega))

theorem encodeChars_small {chars : List Char} {byte : UInt8} (small : byte.toNat < 0x80)
    (member : byte ∈ encodeChars chars) : Char.ofNat byte.toNat ∈ chars := by
  obtain ⟨char, inside, written⟩ := List.mem_flatMap.mp member
  rw [← encodeChar_small small written, Char.ofNat_toNat]
  exact inside

/-- A character that has begun will come out past the small ones. -/
structure Begun.Large (begun : Begun) : Prop where
  code : 2 ≤ begun.code * 64 + (begun.low - 0x80)
  last : begun.needed ≤ 1 → 0x80 ≤ begun.code * 64 + (begun.low - 0x80)

theorem opening_large {byte : UInt8} {begun : Begun} (begins : opening byte = .begins begun) :
    begun.Large := by
  unfold opening at begins
  simp only at begins
  generalize byte.toNat = value at begins
  repeat' split at begins
  all_goals cases begins
  all_goals exact ⟨by simp only; omega, by simp only; omega⟩

theorem toNat_charOfNat {code : Nat} (low : code < 0xD800) : (Char.ofNat code).toNat = code := by
  rw [Char.ofNat, dif_pos (Or.inl low)]
  rfl

/-- A code past the small ones gives no small character but zero, which stands for codes that are no
character. -/
theorem toNat_charOfNat_large {code : Nat} (large : 0x80 ≤ code) :
    0x80 ≤ (Char.ofNat code).toNat ∨ (Char.ofNat code).toNat = 0 := by
  by_cases valid : code.isValidChar
  · rw [Char.ofNat, dif_pos valid]
    exact Or.inl large
  · rw [Char.ofNat, dif_neg valid]
    exact Or.inr rfl

theorem opening_whole {byte : UInt8} {char : Char} (whole : opening byte = .whole char) :
    char.toNat = byte.toNat := by
  unfold opening at whole
  simp only at whole
  split at whole
  case isTrue small =>
    cases whole
    exact toNat_charOfNat (by omega)
  case isFalse large =>
    repeat' split at whole
    all_goals cases whole

theorem readFrom_broken {begun : Begun} {byte : UInt8} {rest : Bytes}
    (outside : ¬(begun.low ≤ byte.toNat ∧ byte.toNat ≤ begun.high)) :
    readFrom (some begun) (byte :: rest) = replacement :: readFrom none (byte :: rest) := by
  simp only [readFrom, if_neg outside]
  cases opening byte <;> rfl

theorem readFrom_none_small {char : Char} (replaced : char ≠ replacement) {byte : UInt8}
    {rest : Bytes}
    (later : ∀ begun?, (∀ begun, begun? = some begun → begun.Large) →
      char ∈ readFrom begun? rest → UInt8.ofNat char.toNat ∈ rest)
    (member : char ∈ readFrom none (byte :: rest)) : UInt8.ofNat char.toNat ∈ byte :: rest := by
  simp only [readFrom] at member
  cases opened : opening byte with
  | whole other =>
      simp only [opened] at member
      rcases List.mem_cons.mp member with same | inside
      · rw [same, opening_whole opened, UInt8.ofNat_toNat]
        exact List.mem_cons_self
      · exact List.mem_cons_of_mem _ (later none nofun inside)
  | begins begun =>
      simp only [opened] at member
      refine List.mem_cons_of_mem _ (later (some begun) ?_ member)
      intro other same
      cases same
      exact opening_large opened
  | stray =>
      simp only [opened] at member
      have inside := (List.mem_cons.mp member).resolve_left replaced
      exact List.mem_cons_of_mem _ (later none nofun inside)

/-- A small character comes only from its own byte. Zero is left out, since it also stands for codes
that are no character. -/
theorem readFrom_small {char : Char} (small : char.toNat < 0x80) (nonzero : char.toNat ≠ 0)
    (bytes : Bytes) (begun? : Option Begun)
    (large : ∀ begun, begun? = some begun → begun.Large)
    (member : char ∈ readFrom begun? bytes) : UInt8.ofNat char.toNat ∈ bytes := by
  have replaced : char ≠ replacement := by
    intro same
    rw [same] at small
    exact absurd small (by decide)
  induction bytes generalizing begun? with
  | nil =>
      cases begun? with
      | none => cases member
      | some begun => exact absurd (List.mem_singleton.mp member) replaced
  | cons byte rest ih =>
      have fresh : char ∈ readFrom none (byte :: rest) → UInt8.ofNat char.toNat ∈ byte :: rest :=
        readFrom_none_small replaced ih
      cases begun? with
      | none => exact fresh member
      | some begun =>
          have rises := large begun rfl
          by_cases within : begun.low ≤ byte.toNat ∧ byte.toNat ≤ begun.high
          · rw [readFrom, if_pos within] at member
            simp only at member
            have code := rises.code
            split at member
            -- The last byte of a code: codes this large are no small characters.
            case isTrue few =>
              have last := rises.last few
              rcases List.mem_cons.mp member with same | later
              · have high : 0x80 ≤ begun.code * 64 + (byte.toNat - 0x80) := by omega
                have above := toNat_charOfNat_large high
                rw [← same] at above
                omega
              · exact List.mem_cons_of_mem _ (ih none nofun later)
            case isFalse more =>
              refine List.mem_cons_of_mem _ (ih _ ?_ member)
              intro other same
              cases same
              exact ⟨by simp only; omega, fun _ => by simp only; omega⟩
          · rw [readFrom_broken within] at member
            exact fresh ((List.mem_cons.mp member).resolve_left replaced)

theorem lossyChars_small {char : Char} {bytes : Bytes} (small : char.toNat < 0x80)
    (nonzero : char.toNat ≠ 0) (member : char ∈ lossyChars bytes) :
    UInt8.ofNat char.toNat ∈ bytes :=
  readFrom_small small nonzero bytes none nofun member

theorem encode_lossy_small {byte : UInt8} {bytes : Bytes} (small : byte.toNat < 0x80)
    (nonzero : byte.toNat ≠ 0) (member : byte ∈ encode (lossy bytes)) : byte ∈ bytes := by
  unfold encode lossy at member
  rw [String.toList_ofList] at member
  have inside := encodeChars_small small member
  have low : byte.toNat < 0xD800 := by omega
  have code := toNat_charOfNat low
  have read := lossyChars_small (by omega) (by omega) inside
  rwa [code, UInt8.ofNat_toNat] at read

theorem Begun.Large.reads {begun : Begun} (large : begun.Large) (bytes : Bytes) :
    ∃ char ∈ readFrom (some begun) bytes, 0x80 ≤ char.toNat ∨ char.toNat = 0 := by
  have broken : 0x80 ≤ replacement.toNat := by decide
  induction bytes generalizing begun with
  | nil => exact ⟨replacement, List.mem_singleton.mpr rfl, Or.inl broken⟩
  | cons byte rest ih =>
      by_cases within : begun.low ≤ byte.toNat ∧ byte.toNat ≤ begun.high
      · have code := large.code
        rw [readFrom, if_pos within]
        simp only
        split
        case isTrue few =>
          have last := large.last few
          exact ⟨_, List.mem_cons_self, toNat_charOfNat_large (by omega)⟩
        case isFalse more => exact ih ⟨by simp only; omega, fun _ => by simp only; omega⟩
      · rw [readFrom_broken within]
        exact ⟨replacement, List.mem_cons_self, Or.inl broken⟩

theorem encodeChar_whole {byte : UInt8} {char : Char} (whole : opening byte = .whole char)
    (small : char.toNat < 0x80) : encodeChar char = [byte] := by
  unfold encodeChar
  simp only
  rw [if_pos small, opening_whole whole, UInt8.ofNat_toNat]

theorem encodeChars_lossyChars {bytes : Bytes}
    (small : ∀ char ∈ lossyChars bytes, char.toNat < 0x80 ∧ char.toNat ≠ 0) :
    encodeChars (lossyChars bytes) = bytes := by
  unfold lossyChars at small ⊢
  induction bytes with
  | nil => rfl
  | cons byte rest ih =>
      rw [readFrom] at small ⊢
      cases opened : opening byte with
      | whole char =>
          simp only [opened] at small ⊢
          rw [encodeChars_cons, encodeChar_whole opened (small char List.mem_cons_self).1,
            ih fun other member => small other (List.mem_cons_of_mem _ member)]
          rfl
      | begins begun =>
          simp only [opened] at small
          obtain ⟨char, member, large⟩ := (opening_large opened).reads rest
          have bounds := small char member
          omega
      | stray =>
          simp only [opened] at small
          exact absurd (small replacement List.mem_cons_self).1 (by decide)

/-- A text of small characters is read from no other bytes than its own. -/
theorem lossy_eq_iff {text : String} (small : ∀ char ∈ text.toList, char.toNat < 0x80 ∧ char.toNat ≠ 0)
    {bytes : Bytes} : lossy bytes = text ↔ bytes = encode text := by
  constructor
  · rintro rfl
    unfold lossy at small
    rw [String.toList_ofList] at small
    unfold encode lossy
    rw [String.toList_ofList]
    exact (encodeChars_lossyChars small).symm
  · rintro rfl
    unfold lossy encode
    rw [lossyChars_encodeChars, String.ofList_toList]

theorem readFrom_some_ne_nil (begun : Begun) (bytes : Bytes) : readFrom (some begun) bytes ≠ [] := by
  induction bytes generalizing begun with
  | nil => exact List.cons_ne_nil _ _
  | cons byte rest ih =>
      by_cases within : begun.low ≤ byte.toNat ∧ byte.toNat ≤ begun.high
      · rw [readFrom, if_pos within]
        simp only
        split
        · exact List.cons_ne_nil _ _
        · exact ih _
      · rw [readFrom_broken within]
        exact List.cons_ne_nil _ _

theorem lossyChars_ne_nil {bytes : Bytes} (someBytes : bytes ≠ []) : lossyChars bytes ≠ [] := by
  cases bytes with
  | nil => exact absurd rfl someBytes
  | cons byte rest =>
      unfold lossyChars
      rw [readFrom]
      cases opening byte with
      | whole char => exact List.cons_ne_nil _ _
      | begins begun => exact readFrom_some_ne_nil begun rest
      | stray => exact List.cons_ne_nil _ _

end CompilerDriver.Text.Utf8
