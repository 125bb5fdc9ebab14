import CompilerDriver.Options.Value
import CompilerDriver.Proofs.Text.Utf8

/-!
Values read back. A value that is written out in the plain way, a number in its decimal digits, is
read as what it was written from.
-/

namespace CompilerDriver.Options.Value

theorem path_bytes {path : Path} (named : path.bytes ≠ []) : Value.path path.bytes = .ok path := by
  unfold Value.path
  rw [if_neg fun empty => named (List.isEmpty_iff.mp empty)]

theorem text_ofText (text : String) : Value.text (Bytes.ofText text) = .ok text := by
  unfold Value.text Bytes.ofText
  rw [Text.Utf8.decode?_encode]

theorem runtime_ofText (wanted : Runtime) :
    Value.runtime (Bytes.ofText wanted.name) = .ok wanted := by
  cases wanted
  unfold Value.runtime
  rw [if_pos rfl]

theorem digit?_of_isDigit {char : Char} (digit : char.isDigit = true) :
    digit? char = some (char.toNat - '0'.toNat) :=
  if_pos (Char.isDigit_iff_toNat.mp digit)

theorem digitsFrom_of_isDigit {chars : List Char} (digits : ∀ char ∈ chars, char.isDigit = true)
    (total : Nat) : digitsFrom total chars = some (Nat.ofDigitChars 10 chars total) := by
  induction chars generalizing total with
  | nil => rfl
  | cons char rest ih =>
      rw [List.forall_mem_cons] at digits
      rw [digitsFrom, digit?_of_isDigit digits.1, Nat.ofDigitChars_cons, Nat.mul_comm 10]
      exact ih digits.2 _

theorem isDigit_of_mem_decimal {number : Nat} {char : Char}
    (member : char ∈ Nat.toDigits 10 number) : char.isDigit = true :=
  Nat.isDigit_of_mem_toDigits (by decide) (by decide) member

theorem digits?_decimal (number : Nat) : digits? (Nat.toDigits 10 number) = some number := by
  unfold digits?
  rw [if_neg fun empty => Nat.toDigits_ne_nil (List.isEmpty_iff.mp empty),
    digitsFrom_of_isDigit fun _ => isDigit_of_mem_decimal,
    Nat.ofDigitChars_toDigits (by decide) (by decide)]

theorem unsigned?_decimal (number : Nat) :
    unsigned? (Nat.toDigits 10 number) = some number ∧
      signed? (Nat.toDigits 10 number) = some number := by
  have read := digits?_decimal number
  cases printed : Nat.toDigits 10 number with
  | nil => exact absurd printed Nat.toDigits_ne_nil
  | cons first rest =>
      have digit : first.isDigit = true := isDigit_of_mem_decimal (printed ▸ List.mem_cons_self)
      have unplussed : first ≠ '+' := by
        rintro rfl
        cases digit
      have unminused : first ≠ '-' := by
        rintro rfl
        cases digit
      rw [printed] at read
      have unsigned : unsigned? (first :: rest) = some number := by
        unfold unsigned?
        split
        · next sign => exact absurd (List.cons.inj sign).1 unplussed
        · exact read
      refine ⟨unsigned, ?_⟩
      unfold signed?
      split
      · next sign => exact absurd (List.cons.inj sign).1 unminused
      · exact unsigned

def decimal (number : Nat) : Bytes :=
  Bytes.ofText (toString number)

theorem count_decimal {number : Nat} (bounded : number < countBound) :
    Value.count (decimal number) = .ok number := by
  unfold Value.count decimal
  rw [text_ofText]
  simp only [Nat.toString_eq_repr, Nat.toList_repr, (unsigned?_decimal number).1, below?]
  rw [if_pos bounded]

theorem stage_decimal {number : Nat} (bounded : number < stageBound) :
    Value.stage (decimal number) = .ok number := by
  unfold Value.stage decimal
  rw [text_ofText]
  simp only [Nat.toString_eq_repr, Nat.toList_repr, (unsigned?_decimal number).2, below?]
  rw [if_pos bounded]

end CompilerDriver.Options.Value
