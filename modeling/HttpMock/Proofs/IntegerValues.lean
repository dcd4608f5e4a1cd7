/-
# Headers that hold an integer

A header is expected to hold an integer, not a numeral: blanks around the value, a plus sign and
leading zeros make no difference.  What the value stands for is said here without a reader, as the
number of a row of digits with the sign in front of it.  A value that is no such text, or stands for
an integer of more than 64 bits, is not read at all; it is never taken for another integer.

* `Text.signed64?_eq_some_iff`: what is read as an integer of 64 bits, and as which;
* `Text.isInteger_decimalInt`: the numeral of an integer stands for it, from the least to the
  greatest;
* `HeaderExpectation.check_integer_exact`: when the expectation of an integer holds of a header, and
  how it fails.
-/
import HttpMock.Proofs.FailureKinds
import HttpMock.Proofs.Numerals

namespace HttpMock
namespace Text

/-- A text stands for an integer: a row of at least one digit, perhaps after a sign. -/
inductive IsInteger : List Char → ℤ → Prop
  | plain {digits : List Char} {n : ℕ} (hnumeral : IsNumeral digits n) : IsInteger digits n
  | plus {digits : List Char} {n : ℕ} (hnumeral : IsNumeral digits n) : IsInteger ('+' :: digits) n
  | minus {digits : List Char} {n : ℕ} (hnumeral : IsNumeral digits n) :
    IsInteger ('-' :: digits) (-n)

/-- An integer fits in 64 bits, one of them for the sign. -/
def IsInt64 (i : ℤ) : Prop := -2 ^ 63 ≤ i ∧ i < 2 ^ 63

instance : DecidablePred IsInt64 := fun i => inferInstanceAs (Decidable (-2 ^ 63 ≤ i ∧ i < 2 ^ 63))

/-! ### Signs -/

variable {s digits : List Char} {i : ℤ} {n : ℕ}

lemma isInteger_plus_iff : IsInteger ('+' :: digits) i ↔ ∃ n : ℕ, IsNumeral digits n ∧ n = i := by
  constructor
  · intro hinteger
    cases hinteger with
    | plain hnumeral => exact absurd hnumeral (IsNumeral.not_plus digits)
    | plus hnumeral => exact ⟨_, hnumeral, rfl⟩
  · rintro ⟨n, hnumeral, rfl⟩
    exact .plus hnumeral

lemma isInteger_minus_iff :
    IsInteger ('-' :: digits) i ↔ ∃ n : ℕ, IsNumeral digits n ∧ -(n : ℤ) = i := by
  constructor
  · intro hinteger
    cases hinteger with
    | plain hnumeral => exact absurd hnumeral (IsNumeral.not_minus digits)
    | minus hnumeral => exact ⟨_, hnumeral, rfl⟩
  · rintro ⟨n, hnumeral, rfl⟩
    exact .minus hnumeral

lemma isInteger_iff_of_unsigned (hminus : ∀ digits, s ≠ '-' :: digits)
    (hplus : ∀ digits, s ≠ '+' :: digits) :
    IsInteger s i ↔ ∃ n : ℕ, IsNumeral s n ∧ n = i := by
  constructor
  · intro hinteger
    cases hinteger with
    | plain hnumeral => exact ⟨_, hnumeral, rfl⟩
    | plus => exact absurd rfl (hplus _)
    | minus => exact absurd rfl (hminus _)
  · rintro ⟨n, hnumeral, rfl⟩
    exact .plain hnumeral

/-- What is read as an integer of 64 bits is the text of such an integer. -/
theorem signed64?_eq_some_iff : signed64? s = some i ↔ IsInteger s i ∧ IsInt64 i := by
  have hread (digits : List Char) (sign : ℕ → ℤ) :
      ((readDigits? digits).map sign).filter
          (fun i => decide (-9223372036854775808 ≤ i) && decide (i < 9223372036854775808)) = some i
        ↔ (∃ n : ℕ, IsNumeral digits n ∧ sign n = i) ∧ IsInt64 i := by
    simp only [Option.filter_eq_some_iff, Option.map_eq_some_iff, readDigits?_eq_some_iff,
      Bool.and_eq_true, decide_eq_true_eq, IsInt64]
    norm_num
  unfold signed64?
  dsimp only
  split
  · next digits =>
    -- the number is made an integer before its sign is changed
    have hmap : ((readDigits? digits).bind fun n => pure (n : ℤ)).map (fun i => -i)
        = (readDigits? digits).map fun n : ℕ => -(n : ℤ) := by
      cases readDigits? digits <;> rfl
    rw [Option.bind_eq_bind, hmap, hread, isInteger_minus_iff]
  · rw [hread, isInteger_plus_iff]
    rfl
  · next hminus hplus =>
    rw [hread, isInteger_iff_of_unsigned hminus hplus]
    rfl

/-! ### The integer of a text -/

namespace IsInteger

/-- A text stands for one integer at most. -/
lemma unique {j : ℤ} (hi : IsInteger s i) (hj : IsInteger s j) : i = j := by
  cases hi with
  | plain hn =>
    cases hj with
    | plain hm => rw [← hn.value_eq, ← hm.value_eq]
    | plus => exact absurd hn (IsNumeral.not_plus _)
    | minus => exact absurd hn (IsNumeral.not_minus _)
  | plus hn =>
    obtain ⟨m, hm, rfl⟩ := isInteger_plus_iff.1 hj
    rw [← hn.value_eq, ← hm.value_eq]
  | minus hn =>
    obtain ⟨m, hm, rfl⟩ := isInteger_minus_iff.1 hj
    rw [← hn.value_eq, ← hm.value_eq]

/-- Neither a digit nor a sign is a blank, so trimming leaves the text of an integer alone. -/
lemma trimChars_eq (hinteger : IsInteger s i) : trimChars s = s := by
  have hblank : ∀ c ∈ s, isBlank c = false := by
    cases hinteger with
    | plain hnumeral => exact hnumeral.not_isBlank
    | plus hnumeral => exact List.forall_mem_cons.2 ⟨by decide, hnumeral.not_isBlank⟩
    | minus hnumeral => exact List.forall_mem_cons.2 ⟨by decide, hnumeral.not_isBlank⟩
  exact trimChars_eq_self (fun c hc => hblank c (List.mem_of_mem_head? hc))
    (fun c hc => hblank c (List.mem_of_mem_getLast? hc))

end IsInteger

/-- What is not read stands for no integer, or for one that does not fit. -/
lemma signed64?_eq_none_iff :
    signed64? s = none ↔ (∀ i, ¬ IsInteger s i) ∨ ∃ i, IsInteger s i ∧ ¬ IsInt64 i := by
  simp only [Option.eq_none_iff_forall_ne_some, ne_eq, signed64?_eq_some_iff]
  constructor
  · intro hnone
    by_cases hinteger : ∃ i, IsInteger s i
    · obtain ⟨i, hi⟩ := hinteger
      exact .inr ⟨i, hi, fun hfits => hnone i ⟨hi, hfits⟩⟩
    · exact .inl (not_exists.1 hinteger)
  · rintro (hnone | ⟨j, hj, hlarge⟩) i ⟨hi, hfits⟩
    · exact hnone i hi
    · obtain rfl := hi.unique hj
      exact hlarge hfits

/-- The numeral of an integer stands for it. -/
theorem isInteger_decimalInt (i : ℤ) : IsInteger (decimalInt i).toList i := by
  have hnumeral := isNumeral_decimalChars i.natAbs
  rw [decimalInt]
  split
  · next hneg =>
    have hi : i = -(i.natAbs : ℤ) := by omega
    rw [String.toList_ofList, isInteger_minus_iff]
    exact ⟨i.natAbs, hnumeral, hi.symm⟩
  · next hpos =>
    have hi : (i.natAbs : ℤ) = i := by omega
    have hplain := IsInteger.plain hnumeral
    rw [hi] at hplain
    rw [decimal, String.toList_ofList]
    exact hplain

end Text

/-! ### The check of an integer -/

namespace HeaderExpectation
open Text

variable {r : Response} {name v : String} {e : ℤ}

lemma checkInteger_eq_ok_iff :
    checkInteger name e v = .ok () ↔ signed64? (trimChars v.toList) = some e := by
  rw [checkInteger]
  cases signed64? (trimChars v.toList) with
  | none => simp
  | some actual =>
    dsimp only
    split
    · next hsame => simp [hsame]
    · next hother => simp [hother]

/-- What the expectation of an integer says of a header with a first value. -/
structure ChecksInteger (r : Response) (name v : String) (e : ℤ) : Prop where
  /-- It holds if the value stands for the integer. -/
  holds : (integer name e).check r = .ok () ↔ IsInteger (trimChars v.toList) e
  /-- The value cannot be read if it stands for no integer, or for one that does not fit. -/
  unreadable : (integer name e).check r = .error (.notAnInteger name v)
    ↔ (∀ i, ¬ IsInteger (trimChars v.toList) i)
      ∨ ∃ i, IsInteger (trimChars v.toList) i ∧ ¬ IsInt64 i
  /-- It is found to be wrong if it stands for another integer that fits. -/
  wrong : (integer name e).check r = .error (.headerMismatch name (decimalInt e) v)
    ↔ ∃ i, IsInteger (trimChars v.toList) i ∧ IsInt64 i ∧ i ≠ e
  /-- There is no other way to fail. -/
  only : ∀ failure, (integer name e).check r = .error failure →
    failure = .notAnInteger name v ∨ failure = .headerMismatch name (decimalInt e) v
  /-- A value that is found to be wrong is not the text that is told as the expected one. -/
  visible : ∀ expected actual,
    (integer name e).check r = .error (.headerMismatch name expected actual) → expected ≠ actual
  /-- The numeral of an integer, with or without blanks around it, is accepted for that integer and
  for no other. -/
  written : ∀ (n : ℤ) (p q : String), (∀ c ∈ p.toList, isBlank c = true) →
    (∀ c ∈ q.toList, isBlank c = true) → v = p ++ decimalInt n ++ q →
    ((integer name e).check r = .ok () ↔ n = e)

/-- **An integer is expected exactly**, whatever 64 bits it has: the expectation holds of the values
that stand for it and of no others, and a value is never taken for an integer that it does not stand
for. -/
theorem check_integer_exact (hfirst : r.headers.get? name = some v) (hfits : IsInt64 e) :
    ChecksInteger r name v e := by
  have hcheck : (integer name e).check r = checkInteger name e v := by
    rw [check, bind_required_of_get? hfirst]
  have hholds : (integer name e).check r = .ok () ↔ IsInteger (trimChars v.toList) e := by
    rw [hcheck, checkInteger_eq_ok_iff, signed64?_eq_some_iff, and_iff_left hfits]
  refine ⟨hholds, ?_, ?_, ?_, ?_, ?_⟩
  · rw [hcheck, checkInteger_eq_error_iff, ← signed64?_eq_none_iff]
    simp
  · rw [hcheck, checkInteger_eq_error_iff]
    simp [signed64?_eq_some_iff, and_assoc]
  · intro failure hfail
    rw [hcheck, checkInteger_eq_error_iff] at hfail
    rcases hfail with ⟨-, hfailure⟩ | ⟨-, -, -, hfailure⟩
    · exact .inl hfailure
    · exact .inr hfailure
  · intro expected actual hfail
    rw [hcheck, checkInteger_eq_error_iff] at hfail
    rcases hfail with ⟨-, ⟨⟩⟩ | ⟨i, hread, hother, hfailure⟩
    obtain ⟨-, rfl, rfl⟩ := Failure.headerMismatch.inj hfailure
    -- a value that is spelled as the numeral would have been read as the integer
    rintro rfl
    have he := isInteger_decimalInt e
    rw [he.trimChars_eq, signed64?_eq_some_iff] at hread
    exact hother (hread.1.unique he)
  · rintro n p q hp hq rfl
    have hn := isInteger_decimalInt n
    rw [hholds, String.toList_append, String.toList_append, trimChars_append_append hp hq,
      hn.trimChars_eq]
    constructor
    · exact fun he => hn.unique he
    · rintro rfl
      exact hn

/-- The least integer of 64 bits is expected of its numeral, blanks aside; one less is not read. -/
theorem check_integer_exact_least :
    (integer "Offset" (-9223372036854775808)).check
        (Response.ok.withHeader "Offset" "\t-9223372036854775808 ") = .ok ()
      ∧ (integer "Offset" 9223372036854775807).check
          (Response.ok.withHeader "Offset" "-9223372036854775809")
        = .error (.notAnInteger "Offset" "-9223372036854775809") := by
  constructor
  · have hfirst : (Response.ok.withHeader "Offset" "\t-9223372036854775808 ").headers.get? "Offset"
        = some "\t-9223372036854775808 " := by decide +kernel
    have hexact := check_integer_exact (e := -9223372036854775808) hfirst (by decide)
    exact (hexact.written (-9223372036854775808) "\t" " " (by simp [isBlank]) (by simp [isBlank])
      (by decide +kernel)).2 rfl
  · have hfirst : (Response.ok.withHeader "Offset" "-9223372036854775809").headers.get? "Offset"
        = some "-9223372036854775809" := by decide +kernel
    have hexact := check_integer_exact (e := 9223372036854775807) hfirst (by decide)
    have hnumeral := isInteger_decimalInt (-9223372036854775809)
    have hvalue : decimalInt (-9223372036854775809) = "-9223372036854775809" := by decide +kernel
    rw [hvalue] at hnumeral
    refine hexact.unreadable.2 (.inr ⟨-9223372036854775809, ?_, by decide⟩)
    rw [hnumeral.trimChars_eq]
    exact hnumeral

end HeaderExpectation
end HttpMock
