/-
# The texts of a date

A date is read in three forms.  `HttpMock.HttpDate.Stamp` writes the fixed-width one; this file
writes the other two as well and shows that a reader takes no text but the written form of what it
reads.  In the older form any one character may stand between the date and the time of day, and in
the form of the C library a day below ten may have a space in place of its first digit; nothing
else is left open.

* `Stamp.eq_fixdate_of_fixdate?`, `Stamp.eq_longDate_of_longWeekday?` and
  `Stamp.eq_spacedDate_of_asctime?`: what each reader takes;
* `Stamp.eq_fixdate_of_ofText?`: the three forms have different lengths, so a text of 29 characters
  is in the fixed-width form.
-/
import Mathlib.Tactic.Common
import HttpMock.HttpDate.Stamp

namespace HttpMock

/-- A numeral of fixed width shows the last digits of a number only. -/
lemma Text.padded_add_mul_tens (width n k : Nat) :
    padded width (n + k * tens width) = padded width n := by
  induction width generalizing n with
  | zero => rfl
  | succ width ih =>
    have htens : k * tens (width + 1) = 10 * (k * tens width) := by
      rw [tens, Nat.mul_left_comm]
    have hdiv : (n + k * tens (width + 1)) / 10 = n / 10 + k * tens width := by omega
    have hmod : (n + k * tens (width + 1)) % 10 = n % 10 := by omega
    rw [padded, padded, hdiv, hmod, ih]

namespace Stamp
open Text

/-! ### The written forms -/

/-- The older form, as in `Sunday, 06-Nov-94 08:49:37 GMT`, with a character of choice between the
date and the time of day. -/
def longDate (t : Stamp) (between : Char) : List Char :=
  t.weekday.fullName.toList ++ ", ".toList ++ padded 2 t.date.day ++ ['-']
    ++ t.date.month.shortName.toList ++ ['-'] ++ padded 2 t.date.year ++ [between]
    ++ t.clock ++ " GMT".toList

/-- The texts of a day in the form of the C library. -/
def IsDayText (day : Nat) (text : List Char) : Prop :=
  text = padded 2 day ∨ (day < 10 ∧ text = ' ' :: padded 1 day)

/-- The form of the C library, as in `Sun Nov  6 08:49:37 1994`, with the text of the day. -/
def spacedDate (t : Stamp) (day : List Char) : List Char :=
  t.weekday.shortName.toList ++ [' '] ++ t.date.month.shortName.toList ++ [' '] ++ day ++ [' ']
    ++ t.clock ++ [' '] ++ padded 4 t.date.year

@[simp] lemma length_clock (t : Stamp) : t.clock.length = 8 := by simp [clock]

lemma length_fixdate (t : Stamp) : t.fixdate.length = 29 := by
  have hweekday : t.weekday.shortName.toList.length = 3 := by cases t.weekday <;> rfl
  have hmonth : t.date.month.shortName.toList.length = 3 := by cases t.date.month <;> rfl
  simp [fixdate, hweekday, hmonth]

/-- The shortest full name of a weekday has six letters. -/
lemma le_length_longDate (t : Stamp) (between : Char) : 30 ≤ (t.longDate between).length := by
  have hweekday : 6 ≤ t.weekday.fullName.toList.length := by cases t.weekday <;> decide
  have hmonth : t.date.month.shortName.toList.length = 3 := by cases t.date.month <;> rfl
  have hcomma : ", ".toList.length = 2 := rfl
  have hzone : " GMT".toList.length = 4 := rfl
  simp only [longDate, List.length_append, List.length_singleton, length_padded, length_clock]
  omega

lemma length_spacedDate (t : Stamp) {day : List Char} (hday : IsDayText t.date.day day) :
    (t.spacedDate day).length = 24 := by
  have hweekday : t.weekday.shortName.toList.length = 3 := by cases t.weekday <;> rfl
  have hmonth : t.date.month.shortName.toList.length = 3 := by cases t.date.month <;> rfl
  have hday : day.length = 2 := by
    rcases hday with rfl | ⟨-, rfl⟩ <;> simp
  simp [spacedDate, hweekday, hmonth, hday]

/-! ### What the readers take -/

variable {s r : List Char} {t : Stamp}

lemma eq_of_clock? {hour minute second : Nat} (h : clock? s = some ((hour, minute, second), r)) :
    s = padded 2 hour ++ ':' :: padded 2 minute ++ ':' :: padded 2 second ++ r := by
  simp only [clock?, Option.bind_eq_bind, Option.bind_eq_some_iff, Prod.exists,
    literal?_eq_some_iff, number?_eq_some_iff, Option.some.injEq, Prod.mk.injEq] at h
  obtain ⟨_, s₁, ⟨-, rfl⟩, s₂, rfl, _, s₃, ⟨-, rfl⟩, s₄, rfl, _, s₅, ⟨-, rfl⟩, ⟨rfl, rfl, rfl⟩, rfl⟩
    := h
  simp

/-- Nothing may be left when a date has been read. -/
lemma eq_nil_of_ite {rest : List Char} {u : Stamp}
    (h : (if rest.isEmpty then some u else none) = some t) : rest = [] ∧ u = t := by
  split at h
  · next hempty => exact ⟨List.isEmpty_iff.1 hempty, Option.some.inj h⟩
  · exact absurd h (by simp)

lemma eq_fixdate_of_fixdate? (h : fixdate? s = some t) : s = t.fixdate := by
  simp only [fixdate?, Option.bind_eq_bind, Option.bind_eq_some_iff, Prod.exists,
    literal?_eq_some_iff, number?_eq_some_iff] at h
  obtain ⟨weekday, s₁, hweekday, s₂, rfl, day, s₃, ⟨-, rfl⟩, s₄, rfl, month, s₅, hmonth, s₆, rfl,
    year, s₇, ⟨-, rfl⟩, s₈, rfl, hour, minute, second, s₉, hclock, rest, rfl, hend⟩ := h
  obtain ⟨rfl, rfl⟩ := eq_nil_of_ite hend
  obtain ⟨-, rfl⟩ := eq_append_of_named? hweekday
  obtain ⟨-, rfl⟩ := eq_append_of_named? hmonth
  obtain rfl := eq_of_clock? hclock
  simp [fixdate, clock]

lemma centuryYear_lt {twoDigits : Nat} (h : twoDigits < tens 2) : centuryYear twoDigits < 2070 := by
  rw [centuryYear]
  simp only [tens] at h
  split <;> omega

lemma eq_longDate_of_longWeekday? (h : longWeekday? s = some t) :
    ∃ between, s = t.longDate between ∧ t.date.year < 2070 := by
  simp only [longWeekday?, Option.bind_eq_bind, Option.bind_eq_some_iff, Prod.exists,
    literal?_eq_some_iff, number?_eq_some_iff] at h
  obtain ⟨weekday, s₁, hweekday, s₂, rfl, day, s₃, ⟨-, rfl⟩, s₄, rfl, month, s₅, hmonth, s₆, rfl,
    twoDigits, s₇, ⟨htwo, rfl⟩, hour, minute, second, s₉, hclock, rest, rfl, hend⟩ := h
  obtain ⟨rfl, rfl⟩ := eq_nil_of_ite hend
  obtain ⟨-, rfl⟩ := eq_append_of_named? hweekday
  obtain ⟨-, rfl⟩ := eq_append_of_named? hmonth
  have hclock := eq_of_clock? hclock
  -- the century that is added to the year does not show in its last two digits
  have hyear : padded 2 (centuryYear twoDigits) = padded 2 twoDigits := by
    rw [centuryYear]
    split
    · rw [Nat.add_comm]
      exact padded_add_mul_tens 2 twoDigits 20
    · rw [Nat.add_comm]
      exact padded_add_mul_tens 2 twoDigits 19
  cases s₇ with
  | nil =>
    -- without a character there, the time of day would be missing as well
    have hlength := congrArg List.length hclock
    simp at hlength
  | cons between s₇ =>
    obtain rfl : s₇ = _ := hclock
    exact ⟨between, by simp [longDate, clock, hyear], centuryYear_lt htwo⟩

lemma eq_of_spacedDay? {day : Nat} (h : spacedDay? s = some (day, r)) :
    ∃ text, IsDayText day text ∧ s = text ++ r := by
  unfold spacedDay? at h
  split at h
  · next s =>
    obtain ⟨hday, rfl⟩ := number?_eq_some_iff.1 h
    exact ⟨' ' :: padded 1 day, .inr ⟨by simpa [tens] using hday, rfl⟩, rfl⟩
  · obtain ⟨-, rfl⟩ := number?_eq_some_iff.1 h
    exact ⟨padded 2 day, .inl rfl, rfl⟩

lemma eq_spacedDate_of_asctime? (h : asctime? s = some t) :
    ∃ day, IsDayText t.date.day day ∧ s = t.spacedDate day := by
  simp only [asctime?, Option.bind_eq_bind, Option.bind_eq_some_iff, Prod.exists,
    literal?_eq_some_iff, number?_eq_some_iff] at h
  obtain ⟨weekday, s₁, hweekday, s₂, rfl, month, s₃, hmonth, s₄, rfl, day, s₅, hday, s₆, rfl, hour,
    minute, second, s₇, hclock, s₈, rfl, year, rest, ⟨-, rfl⟩, hend⟩ := h
  obtain ⟨rfl, rfl⟩ := eq_nil_of_ite hend
  obtain ⟨-, rfl⟩ := eq_append_of_named? hweekday
  obtain ⟨-, rfl⟩ := eq_append_of_named? hmonth
  obtain ⟨text, htext, rfl⟩ := eq_of_spacedDay? hday
  obtain rfl := eq_of_clock? hclock
  exact ⟨text, htext, by simp [spacedDate, clock]⟩

/-- **A text of 29 characters is read in the fixed-width form**, for no other form has that
length. -/
lemma eq_fixdate_of_ofText? (h : ofText? s = some t) (hlength : s.length = 29) :
    s = t.fixdate := by
  rw [ofText?] at h
  cases hfix : fixdate? s with
  | some u =>
    rw [hfix] at h
    obtain rfl : u = t := by simpa using h
    exact eq_fixdate_of_fixdate? hfix
  | none =>
    -- the older form is longer, and that of the C library is shorter
    exfalso
    rw [hfix] at h
    cases hlong : longWeekday? s with
    | some u =>
      obtain ⟨between, hs, -⟩ := eq_longDate_of_longWeekday? hlong
      have := u.le_length_longDate between
      rw [← hs] at this
      omega
    | none =>
      rw [hlong] at h
      obtain ⟨day, hday, hs⟩ := eq_spacedDate_of_asctime? (by simpa using h)
      have := t.length_spacedDate hday
      rw [← hs] at this
      omega

end Stamp
end HttpMock
