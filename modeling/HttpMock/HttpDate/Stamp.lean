/-
# Dates as HTTP writes them

A stamp holds what the text of an HTTP-date says: a day of the week, a calendar date and a time of
day, all in GMT.  It is written in one form, the fixed-width one, and read in three: the
fixed-width form, the older form with the full name of the weekday and a year of two digits, and
the form of the C library.  Names are matched with their case and every number has its full width.

A text can say what no clock ever showed; `Stamp.IsGenuine` sorts those stamps out.  The main
results are

* `Stamp.toSeconds_ofSeconds`: a stamp made for an instant denotes that instant;
* `Stamp.ofSeconds_toSeconds`: a genuine stamp is the one made for its instant;
* `Stamp.fixdate?_fixdate`: what is written in the fixed-width form is read back.
-/
import HttpMock.Calendar
import HttpMock.Text.Scan

namespace HttpMock

/-- What the text of an HTTP-date says. -/
structure Stamp where
  /-- The day of the week. -/
  weekday : Weekday
  /-- The calendar date. -/
  date : Date
  /-- The hour of the day. -/
  hour : Nat
  /-- The minute of the hour. -/
  minute : Nat
  /-- The second of the minute. -/
  second : Nat
deriving DecidableEq, Repr

namespace Stamp
open Text

/-- The number of the first of January 1970. -/
def epochDay : Nat := 719162

/-- The first second after the year 9999, counted from the epoch. -/
def endOfTime : Nat := 253402300800

/-- The stamp of an instant, given in seconds since the epoch. -/
def ofSeconds (s : Nat) : Stamp :=
  let day := s / 86400 + epochDay
  ⟨Weekday.ofDays day, Date.ofDays day, s % 86400 / 3600, s / 60 % 60, s % 60⟩

/-- The seconds from the epoch to the instant of a stamp. -/
def toSeconds (t : Stamp) : Nat :=
  (t.date.toDays - epochDay) * 86400 + t.hour * 3600 + t.minute * 60 + t.second

/-- The stamp names a real date from 1970 to 9999 with its day of the week, and a time of day. -/
def IsGenuine (t : Stamp) : Prop :=
  t.second < 60 ∧ t.minute < 60 ∧ t.hour < 24 ∧ 1970 ≤ t.date.year ∧ t.date.year ≤ 9999
    ∧ t.date.IsReal ∧ t.weekday = t.date.weekday

instance (t : Stamp) : Decidable t.IsGenuine := by unfold IsGenuine; infer_instance

/-- The time of day, as in `08:49:37`. -/
def clock (t : Stamp) : List Char :=
  padded 2 t.hour ++ ':' :: padded 2 t.minute ++ ':' :: padded 2 t.second

/-- The fixed-width form, as in `Sun, 06 Nov 1994 08:49:37 GMT`. -/
def fixdate (t : Stamp) : List Char :=
  t.weekday.shortName.toList ++ ", ".toList ++ padded 2 t.date.day ++ " ".toList
    ++ t.date.month.shortName.toList ++ " ".toList ++ padded 4 t.date.year ++ " ".toList
    ++ t.clock ++ " GMT".toList

/-- Reads a time of day. -/
def clock? (s : List Char) : Option ((Nat × Nat × Nat) × List Char) := do
  let (hour, s) ← number? 2 s
  let s ← literal? [':'] s
  let (minute, s) ← number? 2 s
  let s ← literal? [':'] s
  let (second, s) ← number? 2 s
  some ((hour, minute, second), s)

/-- Reads the fixed-width form. -/
def fixdate? (s : List Char) : Option Stamp := do
  let (weekday, s) ← named? Weekday.shortName Weekday.all s
  let s ← literal? ", ".toList s
  let (day, s) ← number? 2 s
  let s ← literal? [' '] s
  let (month, s) ← named? Month.shortName Month.all s
  let s ← literal? [' '] s
  let (year, s) ← number? 4 s
  let s ← literal? [' '] s
  let ((hour, minute, second), s) ← clock? s
  let s ← literal? " GMT".toList s
  if s.isEmpty then some ⟨weekday, ⟨year, month, day⟩, hour, minute, second⟩ else none

/-- The year that two digits stand for: below 70 of the twenty-first century, else of the
twentieth. -/
def centuryYear (twoDigits : Nat) : Nat :=
  if twoDigits < 70 then 2000 + twoDigits else 1900 + twoDigits

/-- Reads the form `Sunday, 06-Nov-94 08:49:37 GMT`, with any one character between the date and
the time of day. -/
def longWeekday? (s : List Char) : Option Stamp := do
  let (weekday, s) ← named? Weekday.fullName Weekday.all s
  let s ← literal? ", ".toList s
  let (day, s) ← number? 2 s
  let s ← literal? ['-'] s
  let (month, s) ← named? Month.shortName Month.all s
  let s ← literal? ['-'] s
  let (twoDigits, s) ← number? 2 s
  let ((hour, minute, second), s) ← clock? (s.drop 1)
  let s ← literal? " GMT".toList s
  if s.isEmpty then
    some ⟨weekday, ⟨centuryYear twoDigits, month, day⟩, hour, minute, second⟩
  else none

/-- Reads a day of two digits, the first of which may be a space. -/
def spacedDay? (s : List Char) : Option (Nat × List Char) :=
  match s with
  | ' ' :: s => number? 1 s
  | s => number? 2 s

/-- Reads the form `Sun Nov  6 08:49:37 1994`. -/
def asctime? (s : List Char) : Option Stamp := do
  let (weekday, s) ← named? Weekday.shortName Weekday.all s
  let s ← literal? [' '] s
  let (month, s) ← named? Month.shortName Month.all s
  let s ← literal? [' '] s
  let (day, s) ← spacedDay? s
  let s ← literal? [' '] s
  let ((hour, minute, second), s) ← clock? s
  let s ← literal? [' '] s
  let (year, s) ← number? 4 s
  if s.isEmpty then some ⟨weekday, ⟨year, month, day⟩, hour, minute, second⟩ else none

/-- Reads whichever of the three forms a text has. -/
def ofText? (s : List Char) : Option Stamp := fixdate? s <|> longWeekday? s <|> asctime? s

theorem toSeconds_ofSeconds (s : Nat) : (ofSeconds s).toSeconds = s := by
  simp only [ofSeconds, toSeconds, Date.toDays_ofDays]
  omega

/-- Instants before the year 10000 have genuine stamps. -/
theorem isGenuine_ofSeconds {s : Nat} (h : s < endOfTime) : (ofSeconds s).IsGenuine := by
  refine ⟨by simp only [ofSeconds]; omega, by simp only [ofSeconds]; omega,
    by simp only [ofSeconds]; omega, ?_, ?_, Date.isReal_ofDays _, ?_⟩
  · obtain ⟨-, -, hhi⟩ := Year.ofDays_bounds (s / 86400 + epochDay)
    show 1970 ≤ Year.ofDays (s / 86400 + epochDay)
    apply Nat.le_of_not_lt
    intro hlt
    have := Year.start_mono (show Year.ofDays (s / 86400 + epochDay) + 1 ≤ 1970 from hlt)
    have : Year.start 1970 = epochDay := by decide
    omega
  · obtain ⟨-, hlo, -⟩ := Year.ofDays_bounds (s / 86400 + epochDay)
    show Year.ofDays (s / 86400 + epochDay) ≤ 9999
    apply Nat.le_of_not_lt
    intro hlt
    have := Year.start_mono (show 10000 ≤ Year.ofDays (s / 86400 + epochDay) from hlt)
    have : Year.start 10000 = 3652059 := by decide
    simp only [endOfTime, epochDay] at *
    omega
  · simp only [ofSeconds, Date.weekday, Date.toDays_ofDays]

theorem ofSeconds_toSeconds {t : Stamp} (h : t.IsGenuine) : ofSeconds t.toSeconds = t := by
  obtain ⟨hs, hm, hh, hlo, -, hreal, hw⟩ := h
  have hday : epochDay ≤ t.date.toDays := by
    have := Year.start_mono hlo
    have h70 : Year.start 1970 = epochDay := by decide
    simp only [Date.toDays]
    omega
  have hdays : t.toSeconds / 86400 + epochDay = t.date.toDays := by
    simp only [toSeconds]; omega
  obtain ⟨weekday, date, hour, minute, second⟩ := t
  simp only [ofSeconds, hdays, Date.ofDays_toDays hreal, Stamp.mk.injEq, true_and]
  refine ⟨hw.symm, ?_, ?_, ?_⟩ <;> (simp only [toSeconds] at *; omega)

/-- The instant of a genuine stamp lies before the year 10000. -/
theorem toSeconds_lt {t : Stamp} (h : t.IsGenuine) : t.toSeconds < endOfTime := by
  obtain ⟨hs, hm, hh, -, hhi, hreal, -⟩ := h
  obtain ⟨hyear, hday, hlen⟩ := hreal
  have hfit := Month.start_add_length_le (Year.isLeap t.date.year) t.date.month
  have hnext := Year.start_succ hyear
  have hmono := Year.start_mono (show t.date.year + 1 ≤ 10000 by omega)
  have hend : Year.start 10000 = 3652059 := by decide
  rw [Year.length] at hnext
  have hdays : t.date.toDays < 3652059 := by simp only [Date.toDays]; omega
  simp only [toSeconds, endOfTime, epochDay]
  omega

theorem clock?_clock {t : Stamp} (h : t.IsGenuine) (r : List Char) :
    clock? (t.clock ++ r) = some ((t.hour, t.minute, t.second), r) := by
  obtain ⟨hs, hm, hh, -⟩ := h
  have hs : t.second < tens 2 := by simp only [tens]; omega
  have hm : t.minute < tens 2 := by simp only [tens]; omega
  have hh : t.hour < tens 2 := by simp only [tens]; omega
  simp [clock?, clock, number?_append hh, number?_append hm, number?_append hs, literal?]

theorem named?_weekday (w : Weekday) (r : List Char) :
    named? Weekday.shortName Weekday.all (w.shortName.toList ++ r) = some (w, r) := by
  cases w <;> rfl

theorem named?_month (m : Month) (r : List Char) :
    named? Month.shortName Month.all (m.shortName.toList ++ r) = some (m, r) := by
  cases m <;> rfl

/-- What is written in the fixed-width form is read back. -/
theorem fixdate?_fixdate {t : Stamp} (h : t.IsGenuine) : fixdate? t.fixdate = some t := by
  have hday : t.date.day < tens 2 := by
    obtain ⟨-, -, -, -, -, ⟨-, -, hlen⟩, -⟩ := h
    have := t.date.month.length_le (Year.isLeap t.date.year)
    simp only [tens]
    omega
  have hyear : t.date.year < tens 4 := by
    obtain ⟨-, -, -, -, hhi, -⟩ := h
    simp only [tens]
    omega
  have hclock := clock?_clock h [' ', 'G', 'M', 'T']
  simp [fixdate?, fixdate, named?_weekday, named?_month, number?_append hday,
    number?_append hyear, hclock, literal?]

end Stamp
end HttpMock
