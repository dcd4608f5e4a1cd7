/-
# The Gregorian calendar

Days are numbered from the first of January of the year 1, a Monday.  A year has 366 days if it is
divisible by 4 and not by 100, or divisible by 400, and 365 days otherwise.  `Date.toDays` numbers
a date and `Date.ofDays` finds the date of a number; the year is guessed from the mean length of a
year, which misses by at most one, and corrected by the exact start of the year.  The main results
are

* `Date.toDays_ofDays`: the date found for a number has that number;
* `Date.ofDays_toDays`: a real date is the one found for its number;
* `Date.isReal_ofDays`: what is found is a real date.
-/

namespace HttpMock

/-- The days of the week. -/
inductive Weekday
  | monday
  | tuesday
  | wednesday
  | thursday
  | friday
  | saturday
  | sunday
deriving DecidableEq, Repr

namespace Weekday

/-- The week in order. -/
def all : List Weekday := [monday, tuesday, wednesday, thursday, friday, saturday, sunday]

/-- The English name. -/
def fullName : Weekday → String
  | monday => "Monday"
  | tuesday => "Tuesday"
  | wednesday => "Wednesday"
  | thursday => "Thursday"
  | friday => "Friday"
  | saturday => "Saturday"
  | sunday => "Sunday"

/-- The English name cut to three letters. -/
def shortName : Weekday → String
  | monday => "Mon"
  | tuesday => "Tue"
  | wednesday => "Wed"
  | thursday => "Thu"
  | friday => "Fri"
  | saturday => "Sat"
  | sunday => "Sun"

/-- The day of the week of a day number. -/
def ofDays (n : Nat) : Weekday :=
  match n % 7 with
  | 0 => monday
  | 1 => tuesday
  | 2 => wednesday
  | 3 => thursday
  | 4 => friday
  | 5 => saturday
  | _ => sunday

end Weekday

/-- The months of the year. -/
inductive Month
  | january
  | february
  | march
  | april
  | may
  | june
  | july
  | august
  | september
  | october
  | november
  | december
deriving DecidableEq, Repr

namespace Month

/-- The months in order. -/
def all : List Month :=
  [january, february, march, april, may, june, july, august, september, october, november,
    december]

/-- The English name cut to three letters. -/
def shortName : Month → String
  | january => "Jan"
  | february => "Feb"
  | march => "Mar"
  | april => "Apr"
  | may => "May"
  | june => "Jun"
  | july => "Jul"
  | august => "Aug"
  | september => "Sep"
  | october => "Oct"
  | november => "Nov"
  | december => "Dec"

/-- The count of days of a month in a leap year or in a common year. -/
def length (leap : Bool) : Month → Nat
  | february => if leap then 29 else 28
  | april | june | september | november => 30
  | _ => 31

/-- The count of days of the year before a month. -/
def start (leap : Bool) : Month → Nat
  | january => 0
  | february => 31
  | march => if leap then 60 else 59
  | april => if leap then 91 else 90
  | may => if leap then 121 else 120
  | june => if leap then 152 else 151
  | july => if leap then 182 else 181
  | august => if leap then 213 else 212
  | september => if leap then 244 else 243
  | october => if leap then 274 else 273
  | november => if leap then 305 else 304
  | december => if leap then 335 else 334

/-- The month that holds the day of the year with `k` days before it. -/
def ofDayOfYear (leap : Bool) (k : Nat) : Month :=
  (all.reverse.find? fun m => m.start leap ≤ k).getD january

theorem mem_all (m : Month) : m ∈ all := by cases m <;> decide

/-- A month holds the days from its start to the start of the next. -/
theorem start_ofDayOfYear (leap : Bool) {k : Nat} (hk : k < if leap then 366 else 365) :
    (ofDayOfYear leap k).start leap ≤ k
      ∧ k < (ofDayOfYear leap k).start leap + (ofDayOfYear leap k).length leap := by
  have h : ∀ leap : Bool, ∀ k < if leap then 366 else 365,
      (ofDayOfYear leap k).start leap ≤ k
        ∧ k < (ofDayOfYear leap k).start leap + (ofDayOfYear leap k).length leap := by
    decide +kernel
  exact h leap k hk

/-- Months do not overlap. -/
theorem ofDayOfYear_start_add (leap : Bool) (m : Month) {d : Nat} (hd : d < m.length leap) :
    ofDayOfYear leap (m.start leap + d) = m := by
  have h : ∀ leap : Bool, ∀ m ∈ all, ∀ d < m.length leap,
      ofDayOfYear leap (m.start leap + d) = m := by decide +kernel
  exact h leap m m.mem_all d hd

/-- The months fit into the year. -/
theorem start_add_length_le (leap : Bool) (m : Month) :
    m.start leap + m.length leap ≤ if leap then 366 else 365 := by
  cases leap <;> cases m <;> decide

theorem length_le (leap : Bool) (m : Month) : m.length leap ≤ 31 := by
  cases leap <;> cases m <;> decide

end Month

namespace Year

/-- Whether a year has a 29th of February. -/
def isLeap (y : Nat) : Bool := y % 4 == 0 && (y % 100 != 0 || y % 400 == 0)

/-- The count of days of a year. -/
def length (y : Nat) : Nat := if isLeap y then 366 else 365

/-- The number of the first day of a year. -/
def start (y : Nat) : Nat := 365 * (y - 1) + (y - 1) / 4 - (y - 1) / 100 + (y - 1) / 400

/-- The year that holds a day. -/
def ofDays (n : Nat) : Nat :=
  let guess := n * 400 / 146097 + 1
  if n < start guess then guess - 1
  else if start (guess + 1) ≤ n then guess + 1
  else guess

theorem start_succ {y : Nat} (hy : 1 ≤ y) : start (y + 1) = start y + length y := by
  obtain ⟨z, rfl⟩ := Nat.exists_eq_add_of_le' hy
  have h4 : (z + 1) / 4 = z / 4 + if (z + 1) % 4 = 0 then 1 else 0 := by split <;> omega
  have h100 : (z + 1) / 100 = z / 100 + if (z + 1) % 100 = 0 then 1 else 0 := by split <;> omega
  have h400 : (z + 1) / 400 = z / 400 + if (z + 1) % 400 = 0 then 1 else 0 := by split <;> omega
  have hle : z / 100 ≤ z / 4 := by omega
  simp only [start, Nat.add_sub_cancel, h4, h100, h400, length, isLeap]
  by_cases h1 : (z + 1) % 4 = 0 <;> by_cases h2 : (z + 1) % 100 = 0 <;>
    by_cases h3 : (z + 1) % 400 = 0 <;> simp [h1, h2, h3] <;> omega

/-- Up to a bounded error, years begin 146097 days apart in every 400. -/
theorem start_bounds (z : Nat) :
    400 * start (z + 1) ≤ 146097 * z + 396 ∧ 146097 * z ≤ 400 * start (z + 1) + 699 := by
  simp only [start, Nat.add_sub_cancel]
  omega

/-- A day lies in the year found for it. -/
theorem ofDays_bounds (n : Nat) :
    1 ≤ ofDays n ∧ start (ofDays n) ≤ n ∧ n < start (ofDays n + 1) := by
  have hlo := start_bounds (n * 400 / 146097 - 1)
  have hmid := start_bounds (n * 400 / 146097)
  have hhi := start_bounds (n * 400 / 146097 + 2)
  have hguess : 146097 * (n * 400 / 146097) ≤ n * 400
      ∧ n * 400 < 146097 * (n * 400 / 146097) + 146097 := by omega
  have hfirst : start 1 = 0 := rfl
  unfold ofDays
  generalize n * 400 / 146097 = e at *
  cases e with
  | zero =>
    simp only [Nat.reduceAdd] at *
    split
    · omega
    · split <;> simp only [Nat.reduceAdd] <;> omega
  | succ e =>
    simp only [Nat.add_sub_cancel, Nat.add_assoc, Nat.reduceAdd] at *
    split
    · omega
    · split <;> simp only [Nat.add_assoc, Nat.reduceAdd] <;> omega

theorem start_mono {y z : Nat} (hyz : y ≤ z) : start y ≤ start z := by
  induction hyz with
  | refl => exact Nat.le_refl _
  | @step m h ih =>
    rcases Nat.eq_zero_or_pos m with rfl | hm
    · exact ih
    · rw [start_succ hm]; omega

/-- Years do not overlap. -/
theorem ofDays_eq {n y : Nat} (hlo : start y ≤ n) (hhi : n < start (y + 1)) : ofDays n = y := by
  obtain ⟨-, h1, h2⟩ := ofDays_bounds n
  rcases Nat.lt_trichotomy (ofDays n) y with h | h | h
  · have := start_mono (show ofDays n + 1 ≤ y from h); omega
  · exact h
  · have := start_mono (show y + 1 ≤ ofDays n from h); omega

end Year

/-- A calendar date as it is written: the day may be too large for the month. -/
structure Date where
  /-- The year, counted from 1. -/
  year : Nat
  /-- The month of the year. -/
  month : Month
  /-- The day of the month, counted from 1. -/
  day : Nat
deriving DecidableEq, Repr

namespace Date

/-- The calendar has this date. -/
def IsReal (d : Date) : Prop :=
  1 ≤ d.year ∧ 1 ≤ d.day ∧ d.day ≤ d.month.length (Year.isLeap d.year)

instance (d : Date) : Decidable d.IsReal := by unfold IsReal; infer_instance

/-- The number of a date's day. -/
def toDays (d : Date) : Nat :=
  Year.start d.year + d.month.start (Year.isLeap d.year) + (d.day - 1)

/-- The date of a day number. -/
def ofDays (n : Nat) : Date :=
  let year := Year.ofDays n
  let dayOfYear := n - Year.start year
  let month := Month.ofDayOfYear (Year.isLeap year) dayOfYear
  ⟨year, month, dayOfYear - month.start (Year.isLeap year) + 1⟩

/-- The day of the week of a date. -/
def weekday (d : Date) : Weekday := Weekday.ofDays d.toDays

theorem isReal_ofDays (n : Nat) : (ofDays n).IsReal := by
  obtain ⟨hy, hlo, hhi⟩ := Year.ofDays_bounds n
  rw [Year.start_succ hy, Year.length] at hhi
  have := Month.start_ofDayOfYear (Year.isLeap (Year.ofDays n))
    (k := n - Year.start (Year.ofDays n)) (by omega)
  refine ⟨hy, Nat.le_add_left 1 _, ?_⟩
  simp only [ofDays]
  omega

@[simp] theorem toDays_ofDays (n : Nat) : (ofDays n).toDays = n := by
  obtain ⟨hy, hlo, hhi⟩ := Year.ofDays_bounds n
  rw [Year.start_succ hy, Year.length] at hhi
  have := Month.start_ofDayOfYear (Year.isLeap (Year.ofDays n))
    (k := n - Year.start (Year.ofDays n)) (by omega)
  simp only [ofDays, toDays]
  omega

theorem ofDays_toDays {d : Date} (h : d.IsReal) : ofDays d.toDays = d := by
  obtain ⟨hyear, hday, hlen⟩ := h
  have hfit := Month.start_add_length_le (Year.isLeap d.year) d.month
  have hy : Year.ofDays d.toDays = d.year := by
    apply Year.ofDays_eq
    · simp only [toDays]; omega
    · rw [Year.start_succ hyear, Year.length]; simp only [toDays]; omega
  have hk : d.toDays - Year.start d.year
      = d.month.start (Year.isLeap d.year) + (d.day - 1) := by
    simp only [toDays]; omega
  have hm := Month.ofDayOfYear_start_add (Year.isLeap d.year) d.month (d := d.day - 1) (by omega)
  obtain ⟨year, month, day⟩ := d
  simp only [ofDays, hy, hk, hm, Date.mk.injEq, true_and] at *
  omega

end Date
end HttpMock
