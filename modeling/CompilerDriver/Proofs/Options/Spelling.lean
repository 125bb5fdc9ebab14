import CompilerDriver.Proofs.Options.Plan

/-!
Options spelled out in one word each: two dashes, the long name and, behind an equals sign, the
value. No long name has an equals sign in it, so such a word is read as what it was spelled from,
whatever the value looks like, and what comes before it has no say in that.
-/

namespace CompilerDriver.Options

structure Token where
  flag : Flag
  value : Option Bytes
  deriving Repr, DecidableEq

namespace Token

def tail : Option Bytes → Bytes
  | none => []
  | some raw => equals :: raw

def word (token : Token) : Bytes :=
  dash :: dash :: (Bytes.ofText token.flag.long ++ tail token.value)

def act (token : Token) : Act :=
  .option token.flag token.value

/-- A token behind which nothing is waited for. -/
def IsWhole (token : Token) : Prop :=
  token.value = none ↔ token.flag.arity = .none

/-- A token that its option can be spelled as. A value that may be left out is then waited for. -/
def IsFitting (token : Token) : Prop :=
  token.IsWhole ∨ token.flag.arity = .optional

end Token

theorem splitValue_tail (value : Option Bytes) :
    Reader.splitValue (Token.tail value) = ([], value) := by
  cases value with
  | none => rfl
  | some raw =>
      rw [Token.tail, Reader.splitValue, if_pos rfl]

theorem splitValue_append {name : Bytes} (plain : equals ∉ name) (value : Option Bytes) :
    Reader.splitValue (name ++ Token.tail value) = (name, value) := by
  induction name with
  | nil => exact splitValue_tail value
  | cons byte rest ih =>
      rw [List.mem_cons, not_or] at plain
      rw [List.cons_append, Reader.splitValue, if_neg (Ne.symm plain.1), ih plain.2]

theorem equals_not_mem_long (flag : Flag) : equals ∉ Bytes.ofText flag.long := by
  cases flag <;> decide

theorem ofLong?_long (flag : Flag) : Flag.ofLong? (Bytes.ofText flag.long) = some flag := by
  cases flag <;> decide

theorem long_ne_nil (flag : Flag) : Bytes.ofText flag.long ≠ [] := by
  cases flag <;> decide

namespace Pending

variable (pending : Pending) {token : Token}

theorem word_token (token : Token) :
    pending.word token.word = pending.named token.flag token.value := by
  have split := splitValue_append (equals_not_mem_long token.flag) token.value
  have reaches : pending.word token.word =
      pending.long (Bytes.ofText token.flag.long ++ Token.tail token.value) := rfl
  rw [reaches, long, split]
  simp only [ofLong?_long]

theorem word_of_whole (whole : token.IsWhole) :
    pending.word token.word = pending.take token.flag token.value := by
  obtain ⟨flag, value⟩ := token
  rw [word_token]
  unfold Token.IsWhole at whole
  unfold named
  simp only at whole ⊢
  cases value with
  | none => rw [whole.mp rfl]
  | some raw =>
      cases arity : flag.arity with
      | none => exact absurd (whole.mpr arity) (Option.some_ne_none raw)
      | optional | one => rfl

theorem asked_take (flag : Flag) (value : Option Bytes) :
    (pending.take flag value).asked = pending.acts ++ [.option flag value] :=
  List.append_nil _

theorem asked_word (fitting : token.IsFitting) :
    (pending.word token.word).asked = pending.acts ++ [token.act] := by
  rcases fitting with whole | optional
  · rw [word_of_whole pending whole]
    exact pending.asked_take token.flag token.value
  · rw [word_token]
    unfold named
    rw [optional]
    obtain ⟨flag, value⟩ := token
    cases value with
    | none => rfl
    | some raw => exact pending.asked_take flag (some raw)

theorem asked_file (word : Bytes) : (pending.file word).asked = pending.acts ++ [.file word] := by
  cases pending with
  | files words => exact List.map_append
  | nothing | waiting | holding => rfl

theorem asked_trailing (words : List Bytes) :
    (pending.trailing words).asked = pending.acts ++ words.map .file := by
  induction words generalizing pending with
  | nil => exact (List.append_nil _).symm
  | cons word rest ih =>
      rw [trailing, Plan.asked_andThen, ih, ← List.append_assoc]
      change (pending.file word).asked ++ _ = _
      rw [asked_file, List.append_assoc]
      rfl

theorem words_token (token : Token) (rest : List Bytes) :
    pending.words (token.word :: rest) =
      (pending.word token.word).andThen fun after => after.words rest := by
  have named : token.word ≠ [dash, dash] := by
    unfold Token.word
    intro same
    have nothing := (List.cons.inj (List.cons.inj same).2).2
    exact long_ne_nil token.flag (List.append_eq_nil_iff.mp nothing).1
  rw [words, if_neg named]

theorem words_dashes (words : List Bytes) :
    pending.words ([dash, dash] :: words) = pending.trailing words := by
  rw [Pending.words, if_pos rfl]

theorem asked_tokens (tokens : List Token) (fitting : ∀ token ∈ tokens, token.IsFitting)
    (files : List Bytes) :
    (pending.words (tokens.map Token.word ++ [dash, dash] :: files)).asked =
      pending.acts ++ (tokens.map Token.act ++ files.map .file) := by
  induction tokens generalizing pending with
  | nil =>
      change (pending.words ([dash, dash] :: files)).asked = pending.acts ++ files.map .file
      rw [words_dashes, asked_trailing]
  | cons token rest ih =>
      have first := fitting token List.mem_cons_self
      have others : ∀ other ∈ rest, other.IsFitting :=
        fun other member => fitting other (List.mem_cons_of_mem _ member)
      rw [List.map_cons, List.cons_append, words_token, Plan.asked_andThen, ih _ others,
        ← List.append_assoc]
      change (pending.word token.word).asked ++ _ = _
      rw [asked_word pending first, List.append_assoc]
      rfl

end Pending

theorem acts_tokens (tokens : List Token) (fitting : ∀ token ∈ tokens, token.IsFitting)
    (files : List Bytes) :
    acts (tokens.map Token.word ++ [dash, dash] :: files) =
      tokens.map Token.act ++ files.map .file :=
  Pending.nothing.asked_tokens tokens fitting files

theorem acts_append (tokens : List Token) (whole : ∀ token ∈ tokens, token.IsWhole)
    (arguments : List Bytes) :
    acts (tokens.map Token.word ++ arguments) = tokens.map Token.act ++ acts arguments := by
  induction tokens with
  | nil => rfl
  | cons token rest ih =>
      have first := whole token List.mem_cons_self
      have others : ∀ other ∈ rest, other.IsWhole :=
        fun other member => whole other (List.mem_cons_of_mem _ member)
      unfold acts at ih ⊢
      rw [List.map_cons, List.cons_append, Pending.words_token, Pending.word_of_whole _ first,
        Plan.asked_andThen]
      change [token.act] ++ (Pending.nothing.words _).asked = _
      rw [ih others]
      rfl

end CompilerDriver.Options
