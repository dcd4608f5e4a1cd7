/-
# Decimal numerals

Numbers are written with the ASCII digits: plain numerals without a leading zero, and numerals of a
fixed width, padded with zeros.  A numeral of 64 bits is read from one optional sign and at least
one digit; leading zeros are allowed, a minus sign only where negative numbers exist, and a number
that does not fit is refused rather than wrapped.

Main statements: a row of digits reads back as the number it was written from, both for plain and
for padded numerals, and a row of digits that is read is the padded numeral of its value.
-/

namespace HttpMock
namespace Text

/-- The digit for a number below ten. -/
def digitChar (d : Nat) : Char := Char.ofNat (48 + d)

/-- The number below ten that an ASCII digit stands for. -/
def digit? (c : Char) : Option Nat :=
  if '0' ≤ c ∧ c ≤ '9' then some (c.toNat - 48) else none

/-- The plain decimal numeral of `n`. -/
def decimalChars (n : Nat) : List Char :=
  if n < 10 then [digitChar n] else decimalChars (n / 10) ++ [digitChar (n % 10)]

/-- The count of rows of `width` digits. -/
def tens : Nat → Nat
  | 0 => 1
  | width + 1 => 10 * tens width

/-- The last `width` digits of `n`, with zeros in front where `n` is shorter. -/
def padded : Nat → Nat → List Char
  | 0, _ => []
  | width + 1, n => padded width (n / 10) ++ [digitChar (n % 10)]

/-- The number that the digits `s` stand for when they follow the digits of `acc`. -/
def digitsValue? (acc : Nat) : List Char → Option Nat
  | [] => some acc
  | c :: s => (digit? c).bind fun d => digitsValue? (10 * acc + d) s

/-- The number that a row of at least one digit stands for. -/
def readDigits? (s : List Char) : Option Nat :=
  if s.isEmpty then none else digitsValue? 0 s

/-- The number below `2 ^ 64` that a text stands for. -/
def unsigned64? (s : List Char) : Option Nat :=
  let read (digits : List Char) := (readDigits? digits).filter (· < 18446744073709551616)
  match s with
  | '+' :: digits => read digits
  | digits => read digits

/-- The number from `-2 ^ 63` to `2 ^ 63 - 1` that a text stands for. -/
def signed64? (s : List Char) : Option Int :=
  let fits (i : Int) := -9223372036854775808 ≤ i && i < 9223372036854775808
  match s with
  | '-' :: digits => ((readDigits? digits).map fun n => -(n : Int)).filter fits
  | '+' :: digits => ((readDigits? digits).map Int.ofNat).filter fits
  | digits => ((readDigits? digits).map Int.ofNat).filter fits

/-- The plain decimal numeral of a natural number. -/
def decimal (n : Nat) : String := String.ofList (decimalChars n)

/-- The decimal numeral of an integer, with a minus sign if it is negative. -/
def decimalInt (i : Int) : String :=
  if i < 0 then String.ofList ('-' :: decimalChars i.natAbs) else decimal i.natAbs

theorem digit?_digitChar {d : Nat} (h : d < 10) : digit? (digitChar d) = some d := by
  have : ∀ d < 10, digit? (digitChar d) = some d := by decide
  exact this d h

theorem digit?_eq_some {c : Char} {d : Nat} (h : digit? c = some d) :
    d < 10 ∧ c = digitChar d := by
  unfold digit? at h
  split at h
  · next hc =>
    obtain ⟨h0, h9⟩ := hc
    have h0 : 48 ≤ c.toNat := h0
    have h9 : c.toNat ≤ 57 := h9
    obtain rfl := Option.some.inj h
    refine ⟨by omega, ?_⟩
    rw [digitChar, show 48 + (c.toNat - 48) = c.toNat by omega, Char.ofNat_toNat]
  · simp at h

theorem digitsValue?_append (acc : Nat) (s t : List Char) :
    digitsValue? acc (s ++ t) = (digitsValue? acc s).bind (digitsValue? · t) := by
  induction s generalizing acc with
  | nil => rfl
  | cons c s ih =>
    cases hc : digit? c with
    | none => simp [digitsValue?, hc]
    | some d => simp [digitsValue?, hc, ih]

theorem digitsValue?_decimalChars (n : Nat) : digitsValue? 0 (decimalChars n) = some n := by
  induction n using decimalChars.induct with
  | case1 n h => rw [decimalChars, if_pos h]; simp [digitsValue?, digit?_digitChar h]
  | case2 n h ih =>
    rw [decimalChars, if_neg h, digitsValue?_append, ih]
    simp [digitsValue?, digit?_digitChar (Nat.mod_lt n (by omega : 0 < 10))]
    omega

theorem decimalChars_ne_nil (n : Nat) : decimalChars n ≠ [] := by
  rw [decimalChars]; split <;> simp

/-- A plain numeral is read back. -/
theorem readDigits?_decimalChars (n : Nat) : readDigits? (decimalChars n) = some n := by
  simp [readDigits?, decimalChars_ne_nil, digitsValue?_decimalChars]

@[simp] theorem length_padded (width n : Nat) : (padded width n).length = width := by
  induction width generalizing n with
  | zero => rfl
  | succ w ih => simp [padded, ih]

theorem digitsValue?_padded (acc width n : Nat) :
    digitsValue? acc (padded width n) = some (acc * tens width + n % tens width) := by
  induction width generalizing n with
  | zero => simp [padded, digitsValue?, tens, Nat.mod_one]
  | succ w ih =>
    rw [padded, digitsValue?_append, ih]
    simp only [digitsValue?, Option.bind_some, digit?_digitChar (Nat.mod_lt n (by omega : 0 < 10))]
    have h : n % tens (w + 1) = 10 * (n / 10 % tens w) + n % 10 := by
      rw [tens, Nat.mod_mul]; omega
    rw [h, tens, Nat.mul_add, Nat.mul_left_comm, Nat.add_assoc]

/-- A padded numeral begins with its leading digit. -/
theorem digitChar_cons_padded {d m width : Nat} (hd : d < 10) (hm : m < tens width) :
    digitChar d :: padded width m = padded (width + 1) (d * tens width + m) := by
  induction width generalizing m with
  | zero =>
    obtain rfl : m = 0 := by simpa [tens] using hm
    simp [padded, tens, Nat.mod_eq_of_lt hd]
  | succ w ih =>
    have hpow : d * tens (w + 1) = 10 * (d * tens w) := by rw [tens, Nat.mul_left_comm]
    have hdiv : (d * tens (w + 1) + m) / 10 = d * tens w + m / 10 := by omega
    have hmod : (d * tens (w + 1) + m) % 10 = m % 10 := by omega
    have ih := ih (m := m / 10) (by simp only [tens] at hm; omega)
    rw [padded, padded, padded, hdiv, hmod, ← List.cons_append, ih, padded]

/-- A row of digits is the padded numeral of its value. -/
theorem eq_padded_of_digitsValue? {acc n : Nat} {s : List Char}
    (h : digitsValue? acc s = some n) :
    ∃ m < tens s.length, n = acc * tens s.length + m ∧ s = padded s.length m := by
  induction s generalizing acc n with
  | nil => exact ⟨0, by simp [tens], by simpa [digitsValue?, tens, eq_comm] using h, rfl⟩
  | cons c s ih =>
    obtain ⟨d, hd, hrest⟩ := Option.bind_eq_some_iff.1 h
    obtain ⟨hd10, rfl⟩ := digit?_eq_some hd
    obtain ⟨m, hm, rfl, hs⟩ := ih hrest
    refine ⟨d * tens s.length + m, ?_, ?_, ?_⟩
    · rw [List.length_cons, tens]
      have : d * tens s.length ≤ 9 * tens s.length := Nat.mul_le_mul_right _ (by omega)
      omega
    · rw [List.length_cons, tens, Nat.add_mul, Nat.mul_left_comm acc, Nat.mul_assoc, Nat.add_assoc]
    · rw [List.length_cons, ← digitChar_cons_padded hd10 hm, ← hs]

end Text
end HttpMock
