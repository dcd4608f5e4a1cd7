/-
# What a numeral stands for

A length is read from the digits of its numeral one after another.  This file says without a reader
what a row of digits stands for: the number whose decimal digits they are, in their usual places.
Leading zeros are allowed, and a length may have one plus sign in front and must fit in 64 bits.

* `Text.readDigits?_eq_some_iff`: a row of digits is read as the number for which it stands, and
  nothing else is read;
* `Text.unsigned64?_eq_some_iff`: what is read as a number of 64 bits;
* `Text.isNumeral_decimalChars`: the plain numeral of a number stands for it.
-/
import Mathlib.Data.Nat.Digits.Defs
import HttpMock.Text.Blank
import HttpMock.Text.Numeral

namespace HttpMock
namespace Text

/-- Whether a character is one of the ten ASCII digits. -/
def IsDigit (c : Char) : Prop := '0' ≤ c ∧ c ≤ '9'

instance : DecidablePred IsDigit := fun c => inferInstanceAs (Decidable ('0' ≤ c ∧ c ≤ '9'))

/-- The number that a row of digits stands for; the last of them counts the ones. -/
def valueOfDigits (s : List Char) : ℕ :=
  Nat.ofDigits 10 (s.reverse.map fun c => c.toNat - '0'.toNat)

/-- A row of at least one digit that stands for a number. -/
structure IsNumeral (s : List Char) (n : ℕ) : Prop where
  /-- There is a digit. -/
  ne_nil : s ≠ []
  /-- There is nothing but digits. -/
  isDigit : ∀ c ∈ s, IsDigit c
  /-- The digits stand for the number. -/
  value_eq : valueOfDigits s = n

/-- A text that stands for a number of 64 bits: a row of digits, perhaps after a plus sign. -/
structure IsCount (s : List Char) (n : ℕ) : Prop where
  /-- The number fits in 64 bits. -/
  lt : n < 2 ^ 64
  /-- The number is written in digits. -/
  digits : IsNumeral s n ∨ ∃ digits, s = '+' :: digits ∧ IsNumeral digits n

/-! ### Digits -/

lemma digit?_eq_some_iff {c : Char} {d : ℕ} :
    digit? c = some d ↔ IsDigit c ∧ c.toNat - '0'.toNat = d := by
  have hzero : '0'.toNat = 48 := rfl
  rw [digit?, IsDigit, hzero]
  split
  · next hc => simp [hc]
  · next hc => simp [hc]

lemma valueOfDigits_cons (c : Char) (s : List Char) :
    valueOfDigits (c :: s) = (c.toNat - '0'.toNat) * 10 ^ s.length + valueOfDigits s := by
  rw [valueOfDigits, valueOfDigits, List.reverse_cons, List.map_append, Nat.ofDigits_append,
    List.length_map, List.length_reverse, List.map_singleton, Nat.ofDigits_singleton]
  ring

/-- The reader counts the digits that it has passed ten times for every digit that follows. -/
lemma digitsValue?_eq_some_iff {acc n : ℕ} {s : List Char} :
    digitsValue? acc s = some n
      ↔ (∀ c ∈ s, IsDigit c) ∧ acc * 10 ^ s.length + valueOfDigits s = n := by
  -- over the digits, for every number read so far, as each step goes on with another one
  induction s generalizing acc with
  | nil => simp [digitsValue?, valueOfDigits]
  | cons c s ih =>
    have hplaces (d : ℕ) : (10 * acc + d) * 10 ^ s.length + valueOfDigits s
        = acc * 10 ^ (c :: s).length + (d * 10 ^ s.length + valueOfDigits s) := by
      rw [List.length_cons, pow_succ]
      ring
    simp only [digitsValue?, Option.bind_eq_some_iff, digit?_eq_some_iff, ih, hplaces,
      valueOfDigits_cons, List.forall_mem_cons]
    constructor
    · rintro ⟨d, ⟨hc, rfl⟩, hs, hn⟩
      exact ⟨⟨hc, hs⟩, hn⟩
    · rintro ⟨⟨hc, hs⟩, hn⟩
      exact ⟨_, ⟨hc, rfl⟩, hs, hn⟩

/-- A row of digits is read as the number for which it stands. -/
theorem readDigits?_eq_some_iff {s : List Char} {n : ℕ} :
    readDigits? s = some n ↔ IsNumeral s n := by
  rw [readDigits?]
  cases s with
  | nil =>
    refine iff_of_false (by simp) ?_
    intro hnumeral
    exact hnumeral.ne_nil rfl
  | cons c s =>
    rw [List.isEmpty_cons, if_neg Bool.false_ne_true, digitsValue?_eq_some_iff, Nat.zero_mul,
      Nat.zero_add]
    constructor
    · rintro ⟨hdigits, hvalue⟩
      exact ⟨List.cons_ne_nil c s, hdigits, hvalue⟩
    · rintro ⟨-, hdigits, hvalue⟩
      exact ⟨hdigits, hvalue⟩

/-- The plain numeral of a number stands for it. -/
theorem isNumeral_decimalChars (n : ℕ) : IsNumeral (decimalChars n) n :=
  readDigits?_eq_some_iff.1 (readDigits?_decimalChars n)

/-! ### Signs and blanks -/

lemma IsDigit.not_isBlank {c : Char} (hc : IsDigit c) : isBlank c = false := by
  obtain ⟨hzero, hnine⟩ := hc
  have hzero : 48 ≤ c.toNat := hzero
  have hnine : c.toNat ≤ 57 := hnine
  simp only [isBlank, Bool.or_eq_false_iff, Bool.and_eq_false_iff, decide_eq_false_iff_not,
    beq_eq_false_iff_ne]
  omega

namespace IsNumeral

variable {s : List Char} {n : ℕ}

lemma not_cons {c : Char} (hc : ¬ IsDigit c) (digits : List Char) :
    ¬ IsNumeral (c :: digits) n := by
  intro hnumeral
  exact hc (hnumeral.isDigit c List.mem_cons_self)

/-- A sign is no digit. -/
lemma not_plus (digits : List Char) : ¬ IsNumeral ('+' :: digits) n :=
  not_cons (by decide) digits

lemma not_minus (digits : List Char) : ¬ IsNumeral ('-' :: digits) n :=
  not_cons (by decide) digits

lemma not_isBlank (hnumeral : IsNumeral s n) : ∀ c ∈ s, isBlank c = false :=
  fun c hc => (hnumeral.isDigit c hc).not_isBlank

/-- There are no blanks in a row of digits, so trimming leaves it alone. -/
lemma trimChars_eq (hnumeral : IsNumeral s n) : trimChars s = s :=
  trimChars_eq_self (fun c hc => hnumeral.not_isBlank c (List.mem_of_mem_head? hc))
    (fun c hc => hnumeral.not_isBlank c (List.mem_of_mem_getLast? hc))

end IsNumeral

/-- A number of 64 bits that does not begin with a sign is a plain row of digits. -/
lemma IsCount.isNumeral_iff {s : List Char} {n : ℕ} (hcount : IsCount s n) :
    IsNumeral s n ↔ s.head? ≠ some '+' := by
  constructor
  · rintro hnumeral hhead
    obtain ⟨digits, rfl⟩ := List.head?_eq_some_iff.1 hhead
    exact IsNumeral.not_plus digits hnumeral
  · intro hhead
    rcases hcount.digits with hnumeral | ⟨digits, rfl, -⟩
    · exact hnumeral
    · exact absurd rfl hhead

/-- What is read as a number of 64 bits is the text of such a number. -/
theorem unsigned64?_eq_some_iff {s : List Char} {n : ℕ} :
    unsigned64? s = some n ↔ IsCount s n := by
  have hread (digits : List Char) :
      (readDigits? digits).filter (· < 18446744073709551616) = some n
        ↔ n < 2 ^ 64 ∧ IsNumeral digits n := by
    rw [Option.filter_eq_some_iff, readDigits?_eq_some_iff, decide_eq_true_iff, and_comm]
    norm_num
  unfold unsigned64?
  dsimp only
  split
  · next digits =>
    -- behind a sign there must be digits, since the sign is none
    rw [hread]
    constructor
    · rintro ⟨hlt, hnumeral⟩
      exact ⟨hlt, .inr ⟨digits, rfl, hnumeral⟩⟩
    · rintro ⟨hlt, hnumeral | ⟨_, ⟨⟩, hnumeral⟩⟩
      · exact absurd hnumeral (IsNumeral.not_plus digits)
      · exact ⟨hlt, hnumeral⟩
  · next hsign =>
    rw [hread]
    constructor
    · rintro ⟨hlt, hnumeral⟩
      exact ⟨hlt, .inl hnumeral⟩
    · rintro ⟨hlt, hnumeral | ⟨digits, rfl, -⟩⟩
      · exact ⟨hlt, hnumeral⟩
      · exact absurd rfl (hsign digits)

/-- The plain numeral of a number of 64 bits is the text of such a number, also when it is
trimmed. -/
lemma isCount_decimal {n : ℕ} (hlt : n < 2 ^ 64) : IsCount (trimChars (decimal n).toList) n := by
  have hnumeral := isNumeral_decimalChars n
  rw [decimal, String.toList_ofList, hnumeral.trimChars_eq]
  exact ⟨hlt, .inl hnumeral⟩

end Text
end HttpMock
