/-
# The HTTP-date codec

Instants are milliseconds since the epoch; an HTTP-date carries whole seconds, so writing drops the
milliseconds of the second.  Writing fails for the instants after the year 9999, which have no
year of four digits.  Reading takes any of the three forms with blanks around it and fails for
every other text.  The main results are

* `HttpDate.write_eq_error_iff`: writing fails exactly from the year 10000 on;
* `HttpDate.read_of_write`: what is written is read back as the whole second, with or without
  blanks around it.
-/
import HttpMock.HttpDate.Stamp
import HttpMock.Text.Blank

namespace HttpMock

/-- Why a date cannot be read or written. -/
inductive DateError
  /-- The text has none of the forms of an HTTP-date, or names a date that is none. -/
  | invalid
  /-- The instant, in milliseconds since the epoch, lies after the year 9999. -/
  | outOfRange (millis : Nat)
deriving DecidableEq, Repr

namespace DateError

/-- The wording of the error. -/
def message : DateError → String
  | invalid => "invalid HTTP-date: string contains no or an invalid date"
  | outOfRange millis =>
    Text.decimal millis ++ " ms since epoch cannot be written as an HTTP-date"

end DateError

namespace HttpDate

/-- The first instant that has no HTTP-date, in milliseconds since the epoch. -/
def limit : Nat := 253402300800000

/-- The start of the second of an instant. -/
def truncate (millis : Nat) : Nat := millis - millis % 1000

/-- The HTTP-date of an instant. -/
def write (millis : Nat) : Except DateError String :=
  if limit ≤ millis then .error (.outOfRange millis)
  else .ok (String.ofList (Stamp.ofSeconds (millis / 1000)).fixdate)

/-- Whether a text is ASCII. -/
def isAscii (s : List Char) : Bool := s.all fun c => c.toNat < 128

theorem isAscii_iff {s : List Char} : isAscii s = true ↔ ∀ c ∈ s, c.toNat < 128 := by
  simp [isAscii]

/-- The genuine stamp that a text has after trimming. -/
def stamp? (text : String) : Option Stamp :=
  let s := Text.trimChars text.toList
  if isAscii s then (Stamp.ofText? s).filter fun t => t.IsGenuine else none

/-- The instant that the text of an HTTP-date denotes. -/
def read (text : String) : Except DateError Nat :=
  match stamp? text with
  | some t => .ok (t.toSeconds * 1000)
  | none => .error .invalid

theorem limit_eq : limit = Stamp.endOfTime * 1000 := by decide

@[simp] theorem truncate_eq (millis : Nat) : truncate millis = millis / 1000 * 1000 := by
  simp only [truncate]; omega

theorem write_eq_error_iff {millis : Nat} {e : DateError} :
    write millis = .error e ↔ limit ≤ millis ∧ e = .outOfRange millis := by
  unfold write
  split
  · next h => simp [h, eq_comm]
  · next h =>
    simp only [reduceCtorEq, false_iff]
    exact fun ⟨hle, _⟩ => h hle

/-- What is read is the start of a second before the limit. -/
theorem exists_of_read {text : String} {millis : Nat} (h : read text = .ok millis) :
    ∃ t : Stamp, stamp? text = some t ∧ t.IsGenuine ∧ millis = t.toSeconds * 1000
      ∧ millis < limit := by
  unfold read at h
  split at h
  · next t ht =>
    obtain rfl := Except.ok.inj h
    refine ⟨t, ht, ?_⟩
    simp only [stamp?] at ht
    split at ht
    · obtain ⟨-, hgen⟩ := Option.filter_eq_some_iff.1 ht
      have hgen : t.IsGenuine := by simpa using hgen
      have := Stamp.toSeconds_lt hgen
      exact ⟨hgen, rfl, by unfold Stamp.endOfTime at this; unfold limit; omega⟩
    · simp at ht
  · simp at h

theorem digitChar_mod_ascii (n : Nat) : (Text.digitChar (n % 10)).toNat < 128 := by
  have h : ∀ d < 10, (Text.digitChar d).toNat < 128 := by decide
  exact h _ (Nat.mod_lt n (by omega))

theorem padded_ascii (width n : Nat) : ∀ c ∈ Text.padded width n, c.toNat < 128 := by
  induction width generalizing n with
  | zero => simp [Text.padded]
  | succ w ih =>
    intro c hc
    rcases List.mem_append.1 (by simpa only [Text.padded] using hc) with hc | hc
    · exact ih _ c hc
    · obtain rfl := List.mem_singleton.1 hc; exact digitChar_mod_ascii n

theorem weekday_ascii (w : Weekday) : isAscii w.shortName.toList = true := by cases w <;> decide

theorem month_ascii (m : Month) : isAscii m.shortName.toList = true := by cases m <;> decide

theorem isAscii_append (s r : List Char) : isAscii (s ++ r) = (isAscii s && isAscii r) :=
  List.all_append

theorem isAscii_cons (c : Char) (s : List Char) :
    isAscii (c :: s) = (decide (c.toNat < 128) && isAscii s) :=
  List.all_cons

theorem isAscii_padded (width n : Nat) : isAscii (Text.padded width n) = true :=
  isAscii_iff.2 (padded_ascii width n)

theorem isAscii_clock (t : Stamp) : isAscii t.clock = true := by
  have hcolon : ':'.toNat < 128 := by decide
  simp only [Stamp.clock, isAscii_append, isAscii_cons, isAscii_padded, hcolon, decide_true,
    Bool.and_self]

/-- The written form is ASCII. -/
theorem fixdate_ascii (t : Stamp) : ∀ c ∈ t.fixdate, c.toNat < 128 := by
  have hcomma : isAscii ", ".toList = true := by decide
  have hblank : isAscii " ".toList = true := by decide
  have hzone : isAscii " GMT".toList = true := by decide
  rw [← isAscii_iff]
  simp only [Stamp.fixdate, isAscii_append, weekday_ascii, month_ascii, isAscii_padded,
    isAscii_clock, hcomma, hblank, hzone, Bool.and_self]

/-- The written form begins and ends with letters, so trimming leaves it alone. -/
theorem trimChars_fixdate (t : Stamp) : Text.trimChars t.fixdate = t.fixdate := by
  apply Text.trimChars_eq_self
  · intro c hc
    cases hw : t.weekday <;> simp [Stamp.fixdate, hw, Weekday.shortName] at hc <;>
      (subst hc; decide)
  · intro c hc
    rw [Stamp.fixdate, List.getLast?_append] at hc
    simp at hc
    subst hc
    decide

/-- What is written is read back as the whole second, with or without blanks around it. -/
theorem read_of_write {millis : Nat} {text : String} (h : write millis = .ok text)
    {p q : List Char} (hp : ∀ c ∈ p, Text.isBlank c = true)
    (hq : ∀ c ∈ q, Text.isBlank c = true) :
    read (String.ofList (p ++ text.toList ++ q)) = .ok (truncate millis) := by
  unfold write at h
  split at h
  · simp at h
  · next hlt =>
    obtain rfl := Except.ok.inj h
    have hgen : (Stamp.ofSeconds (millis / 1000)).IsGenuine :=
      Stamp.isGenuine_ofSeconds (by unfold limit at hlt; unfold Stamp.endOfTime; omega)
    have hall : isAscii (Stamp.ofSeconds (millis / 1000)).fixdate = true :=
      isAscii_iff.2 (fixdate_ascii _)
    have hform : Stamp.ofText? (Stamp.ofSeconds (millis / 1000)).fixdate
        = some (Stamp.ofSeconds (millis / 1000)) := by
      simp [Stamp.ofText?, Stamp.fixdate?_fixdate hgen]
    simp only [read, stamp?, String.toList_ofList, Text.trimChars_append_append hp hq,
      trimChars_fixdate, hall, if_true, hform, Option.filter, decide_eq_true hgen,
      Stamp.toSeconds_ofSeconds, truncate_eq]

end HttpDate
end HttpMock
