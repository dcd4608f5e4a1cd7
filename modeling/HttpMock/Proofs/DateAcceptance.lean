/-
# Which texts are read as a date

`HttpMock.Proofs.DateForms` says that a reader takes no text but the written form of what it reads.
This file adds the converse, that each written form of a genuine date is read, and so tells exactly
which texts are read as which instant.

A date has three renderings.  The fixed-width one serves every date, and so does the one of the C
library; the older one serves the dates whose year its two digits can tell.  One further text is
read: the older rendering may have any character of ASCII where a blank belongs between the date and
the time of day, for this place is not looked at.

* `Stamp.ofText?_eq_some_iff`: which texts have which genuine date;
* `HttpDate.read_exactly`: which texts are read as which instant, and what is said of all others.
-/
import Mathlib.Data.Option.Basic
import HttpMock.Proofs.DateRoundTrip

namespace HttpMock

namespace Stamp
open Text

/-! ### Renderings -/

/-- The renderings of a date. -/
inductive IsRendering (t : Stamp) : List Char → Prop
  /-- The fixed-width form. -/
  | fixdate : IsRendering t t.fixdate
  /-- The older form, which tells the last two digits of the year. -/
  | longDate (hlo : 1970 ≤ t.date.year) (hhi : t.date.year ≤ 2069) : IsRendering t (t.longDate ' ')
  /-- The form of the C library. -/
  | spacedDate {day : List Char} (hday : IsDayText t.date.day day) : IsRendering t (t.spacedDate day)

/-- The older form of a date, but for the blank between the date and the time of day, which is
another character of ASCII. -/
def IsMisrendering (t : Stamp) (s : List Char) : Prop :=
  (1970 ≤ t.date.year ∧ t.date.year ≤ 2069)
    ∧ ∃ between, between ≠ ' ' ∧ between.toNat < 128 ∧ s = t.longDate between

variable {t u : Stamp} {s : List Char}

/-- The older form shows what stands between the date and the time of day. -/
lemma between_eq_of_longDate_eq {b c : Char} (h : t.longDate b = u.longDate c) : b = c := by
  obtain ⟨hclock, -⟩ := List.append_inj' h rfl
  obtain ⟨hplace, -⟩ := List.append_inj' hclock (by simp)
  obtain ⟨-, hsame⟩ := List.append_inj' hplace rfl
  exact List.singleton_inj.1 hsame

/-- A text with another character in that place is no rendering, of whatever date. -/
lemma IsMisrendering.not_isRendering (h : t.IsMisrendering s) (u : Stamp) : ¬ u.IsRendering s := by
  obtain ⟨-, between, hblank, -, hs⟩ := h
  have hlength := t.le_length_longDate between
  rw [← hs] at hlength
  rintro (_ | _ | hday)
  · rw [u.length_fixdate] at hlength
    omega
  · exact hblank (between_eq_of_longDate_eq hs).symm
  · rw [u.length_spacedDate hday] at hlength
    omega

/-! ### Renderings are read -/

lemma named?_fullWeekday (w : Weekday) (r : List Char) :
    named? Weekday.fullName Weekday.all (w.fullName.toList ++ r) = some (w, r) := by
  cases w <;> rfl

lemma IsGenuine.day_lt (h : t.IsGenuine) : t.date.day < tens 2 := by
  obtain ⟨-, -, -, -, -, ⟨-, -, hlen⟩, -⟩ := h
  have := t.date.month.length_le (Year.isLeap t.date.year)
  simp only [tens]
  omega

lemma IsGenuine.year_lt (h : t.IsGenuine) : t.date.year < tens 4 := by
  obtain ⟨-, -, -, -, hhi, -⟩ := h
  simp only [tens]
  omega

/-- The two digits of a year tell the year, within a hundred years. -/
lemma centuryYear_mod {y : Nat} (hlo : 1970 ≤ y) (hhi : y < 2070) : centuryYear (y % 100) = y := by
  rw [centuryYear]
  split <;> omega

lemma padded_two_mod (n : Nat) : padded 2 n = padded 2 (n % 100) := by
  have hn : n = n % 100 + n / 100 * tens 2 := by
    simp only [tens]
    omega
  conv_lhs => rw [hn, padded_add_mul_tens]

lemma longWeekday?_longDate (h : t.IsGenuine) (hyear : t.date.year < 2070) (between : Char) :
    longWeekday? (t.longDate between) = some t := by
  have htwo : t.date.year % 100 < tens 2 := Nat.mod_lt _ (by decide)
  have hclock := clock?_clock h [' ', 'G', 'M', 'T']
  obtain ⟨-, -, -, hlo, -⟩ := id h
  simp [longWeekday?, longDate, named?_fullWeekday, named?_month, number?_append h.day_lt,
    padded_two_mod t.date.year, number?_append htwo, centuryYear_mod hlo hyear, hclock, literal?]

/-- A numeral begins with no blank, so that it is told from a day with a blank in front. -/
lemma spacedDay?_padded {day : Nat} (hday : day < tens 2) (r : List Char) :
    spacedDay? (padded 2 day ++ r) = some (day, r) := by
  have hblank : ∀ d < 10, digitChar d ≠ ' ' := by decide
  have hfirst : digitChar (day / 10 % 10) ≠ ' ' := hblank _ (Nat.mod_lt _ (by decide))
  have hcons : padded 2 day ++ r
      = digitChar (day / 10 % 10) :: digitChar (day % 10) :: r := rfl
  rw [← number?_append hday r, hcons, spacedDay?]
  intro rest hrest
  exact hfirst (List.cons.inj hrest).1

lemma spacedDay?_append {day : Nat} {text : List Char} (hday : day < tens 2)
    (htext : IsDayText day text) (r : List Char) : spacedDay? (text ++ r) = some (day, r) := by
  rcases htext with rfl | ⟨hlt, rfl⟩
  · exact spacedDay?_padded hday r
  · exact number?_append hlt r

lemma asctime?_spacedDate (h : t.IsGenuine) {day : List Char} (hday : IsDayText t.date.day day) :
    asctime? (t.spacedDate day) = some t := by
  have hclock := clock?_clock h (' ' :: padded 4 t.date.year)
  have hyear := number?_append h.year_lt []
  rw [List.append_nil] at hyear
  simp [asctime?, spacedDate, named?_weekday, named?_month, spacedDay?_append h.day_lt hday, hclock,
    hyear, literal?]

/-! ### The three readers in a row -/

lemma fixdate?_eq_none (hlength : s.length ≠ 29) : fixdate? s = none := by
  rw [Option.eq_none_iff_forall_ne_some]
  intro u hfix
  rw [eq_fixdate_of_fixdate? hfix] at hlength
  exact hlength u.length_fixdate

lemma longWeekday?_eq_none (hlength : s.length < 30) : longWeekday? s = none := by
  rw [Option.eq_none_iff_forall_ne_some]
  intro u hlong
  obtain ⟨between, rfl, -⟩ := eq_longDate_of_longWeekday? hlong
  exact absurd (u.le_length_longDate between) (Nat.not_le.2 hlength)

/-- **The texts of a genuine date**: the readers do not get in each other's way, for the forms have
different lengths. -/
theorem ofText?_eq_some_iff (h : t.IsGenuine) :
    ofText? s = some t ↔ s = t.fixdate ∨ (∃ between, s = t.longDate between ∧ t.date.year < 2070)
      ∨ ∃ day, IsDayText t.date.day day ∧ s = t.spacedDate day := by
  constructor
  · intro hread
    rw [ofText?, Option.orElse_eq_some, Option.orElse_eq_some] at hread
    rcases hread with hfix | ⟨-, hlong | ⟨-, hspaced⟩⟩
    · exact .inl (eq_fixdate_of_fixdate? hfix)
    · exact .inr (.inl (eq_longDate_of_longWeekday? hlong))
    · exact .inr (.inr (eq_spacedDate_of_asctime? hspaced))
  · rintro (hs | ⟨between, hs, hyear⟩ | ⟨day, hday, hs⟩)
    · rw [hs, ofText?, fixdate?_fixdate h]
      rfl
    · have hlength := t.le_length_longDate between
      rw [hs, ofText?, fixdate?_eq_none (by omega), longWeekday?_longDate h hyear]
      rfl
    · have hlength := t.length_spacedDate hday
      rw [hs, ofText?, fixdate?_eq_none (by omega), longWeekday?_eq_none (by omega),
        asctime?_spacedDate h hday]
      rfl

end Stamp

namespace HttpDate
open Text

variable {t : Stamp} {s : List Char} {text : String}

/-! ### Renderings are ASCII -/

lemma isAscii_fullName (w : Weekday) : isAscii w.fullName.toList = true := by cases w <;> decide

lemma isAscii_longDate (t : Stamp) {between : Char} (hbetween : between.toNat < 128) :
    isAscii (t.longDate between) = true := by
  have hcomma : isAscii ", ".toList = true := by decide
  have hdash : isAscii ['-'] = true := by decide
  have hzone : isAscii " GMT".toList = true := by decide
  have hplace : isAscii [between] = true := by simpa [isAscii] using hbetween
  simp only [Stamp.longDate, isAscii_append, isAscii_fullName, isAscii_padded, month_ascii,
    isAscii_clock, hcomma, hdash, hzone, hplace, Bool.and_self]

lemma isAscii_dayText {day : Nat} (hday : Stamp.IsDayText day s) : isAscii s = true := by
  have hblank : ' '.toNat < 128 := by decide
  rcases hday with rfl | ⟨-, rfl⟩
  · exact isAscii_padded 2 day
  · simp only [isAscii_cons, isAscii_padded, hblank, decide_true, Bool.and_self]

lemma isAscii_spacedDate {day : List Char} (hday : Stamp.IsDayText t.date.day day) :
    isAscii (t.spacedDate day) = true := by
  have hblank : isAscii [' '] = true := by decide
  simp only [Stamp.spacedDate, isAscii_append, weekday_ascii, month_ascii, isAscii_padded,
    isAscii_clock, isAscii_dayText hday, hblank, Bool.and_self]

/-! ### The texts of an instant -/

lemma stamp?_eq_some_iff :
    stamp? text = some t ↔ isAscii (trimChars text.toList) = true ∧ t.IsGenuine
      ∧ Stamp.ofText? (trimChars text.toList) = some t := by
  rw [stamp?]
  split
  · next hascii => simp [Option.filter_eq_some_iff, hascii, and_comm]
  · next hascii => simp [hascii]

/-- A text is that of a genuine date if it is a rendering of it, up to the one place that is not
looked at. -/
lemma stamp?_eq_some_iff_isRendering :
    stamp? text = some t ↔ t.IsGenuine ∧ (t.IsRendering (trimChars text.toList)
      ∨ t.IsMisrendering (trimChars text.toList)) := by
  rw [stamp?_eq_some_iff]
  generalize trimChars text.toList = s
  constructor
  · rintro ⟨hascii, hgenuine, hread⟩
    refine ⟨hgenuine, ?_⟩
    rcases (Stamp.ofText?_eq_some_iff hgenuine).1 hread with
      rfl | ⟨between, rfl, hyear⟩ | ⟨day, hday, rfl⟩
    · exact .inl .fixdate
    · obtain ⟨-, -, -, hlo, -⟩ := hgenuine
      have hhi : t.date.year ≤ 2069 := Nat.le_of_lt_succ hyear
      by_cases hblank : between = ' '
      · subst hblank
        exact .inl (.longDate hlo hhi)
      · have hmem : between ∈ t.longDate between := by simp [Stamp.longDate]
        exact .inr ⟨⟨hlo, hhi⟩, between, hblank, isAscii_iff.1 hascii between hmem, rfl⟩
    · exact .inl (.spacedDate hday)
  · rintro ⟨hgenuine, hrendering⟩
    rw [Stamp.ofText?_eq_some_iff hgenuine]
    rcases hrendering with (_ | ⟨-, hhi⟩ | hday) | ⟨⟨-, hhi⟩, between, -, hbetween, rfl⟩
    · exact ⟨isAscii_iff.2 (fixdate_ascii t), hgenuine, .inl rfl⟩
    · exact ⟨isAscii_longDate t (by decide), hgenuine, .inr (.inl ⟨_, rfl, Nat.lt_succ_of_le hhi⟩)⟩
    · exact ⟨isAscii_spacedDate hday, hgenuine, .inr (.inr ⟨_, hday, rfl⟩)⟩
    · exact ⟨isAscii_longDate t hbetween, hgenuine,
        .inr (.inl ⟨between, rfl, Nat.lt_succ_of_le hhi⟩)⟩

lemma read_eq_ok_iff {millis : Nat} :
    read text = .ok millis ↔ ∃ t, stamp? text = some t ∧ millis = t.toSeconds * 1000 := by
  rw [read]
  cases stamp? text <;> simp [eq_comm]

/-- **Which texts are read as a date**: a text is read as the instants that have a rendering in it,
blanks around it aside, and these are starts of seconds before the year 10000; in the older form
one place is not looked at.  All that is said of any other text is that it is invalid. -/
theorem read_exactly (text : String) :
    (∀ millis, read text = .ok millis ↔ millis % 1000 = 0 ∧ millis < limit
        ∧ ((Stamp.ofSeconds (millis / 1000)).IsRendering (trimChars text.toList)
          ∨ (Stamp.ofSeconds (millis / 1000)).IsMisrendering (trimChars text.toList)))
      ∧ ∀ e, read text = .error e ↔ e = .invalid ∧ ∀ millis, read text ≠ .ok millis := by
  constructor
  · intro millis
    rw [read_eq_ok_iff]
    constructor
    · rintro ⟨t, hstamp, rfl⟩
      obtain ⟨hgenuine, hrendering⟩ := stamp?_eq_some_iff_isRendering.1 hstamp
      have hlt := Stamp.toSeconds_lt hgenuine
      rw [Nat.mul_div_cancel _ (by decide), Stamp.ofSeconds_toSeconds hgenuine]
      exact ⟨Nat.mul_mod_left _ _, by rw [limit_eq]; omega, hrendering⟩
    · rintro ⟨hwhole, hlt, hrendering⟩
      have hgenuine : (Stamp.ofSeconds (millis / 1000)).IsGenuine :=
        Stamp.isGenuine_ofSeconds (by rw [limit_eq] at hlt; omega)
      refine ⟨_, stamp?_eq_some_iff_isRendering.2 ⟨hgenuine, hrendering⟩, ?_⟩
      rw [Stamp.toSeconds_ofSeconds]
      omega
  · intro e
    cases hread : read text with
    | ok millis => simp
    | error other =>
      -- there is one error only
      have hinvalid : other = .invalid := by
        rw [read] at hread
        split at hread
        · exact absurd hread (by simp)
        · exact (Except.error.inj hread).symm
      simp [hinvalid, eq_comm]

/-- A colon in place of the blank between the date and the time of day makes no rendering of any
instant, and yet the text is read. -/
theorem read_exactly_colon :
    read "Wednesday, 01-Jan-20:00:00:00 GMT" = .ok 1577836800000
      ∧ ∀ t : Stamp, ¬ t.IsRendering (trimChars "Wednesday, 01-Jan-20:00:00:00 GMT".toList) := by
  have hplace : (Stamp.ofSeconds 1577836800).IsMisrendering
      (trimChars "Wednesday, 01-Jan-20:00:00:00 GMT".toList) :=
    ⟨by decide +kernel, ':', by decide, by decide, by decide +kernel⟩
  obtain ⟨hread, -⟩ := read_exactly "Wednesday, 01-Jan-20:00:00:00 GMT"
  exact ⟨(hread 1577836800000).2 ⟨rfl, by decide, .inr hplace⟩, hplace.not_isRendering⟩

end HttpDate
end HttpMock
