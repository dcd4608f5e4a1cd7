/-
# Headers that hold a date

A header is expected to hold the date of an instant, to the second.  The milliseconds of the instant
are dropped from what is expected, as they were when the date was written; so an instant is as good
as any other of its second.  A value may be a date in any of the three forms.  If it is not the date
that is expected, the failure tells that date as it would be written, or the milliseconds of the
instant where no date can be written, and neither is how the value is spelled.

* `Headers.IsDated.get?`: a header keeps the date that it was given last;
* `HeaderExpectation.eq_truncate_of_read_describeDate`: the expected date, as a failure tells it, is
  no other date;
* `HeaderExpectation.check_date_exact`: when the expectation of a date holds of a header, and what a
  failure tells.
-/
import HttpMock.Proofs.DateRoundTrip
import HttpMock.Proofs.FailureKinds
import HttpMock.Proofs.HeaderHistory
import HttpMock.Proofs.Numerals
import HttpMock.Proofs.Revalidation

namespace HttpMock

/-! ### The header that was dated last -/

namespace Headers

/-- An edit leaves a header alone: it is about another one, or its date cannot be written. -/
def Edit.Spares (name : String) (e : Edit) : Prop := key e.name = key name → e.change? = none

/-- The last edit of a header that does anything gives it the date of an instant. -/
def IsDated (h : Headers) (name : String) (millis : ℕ) : Prop :=
  ∃ before after, h = ofEdits (before ++ .setDate name millis :: after)
    ∧ ∀ e ∈ after, Edit.Spares name e

variable {h : Headers} {name : String}

lemma find?_edit_of_spares {e : Edit} (hspares : e.Spares name) :
    (h.edit e).find? name = h.find? name := by
  rw [edit_eq]
  cases hchange : e.change? with
  | none => rfl
  | some c =>
    have hkey : key c.name ≠ key name := by
      rw [Edit.name_of_change? hchange]
      intro hsame
      exact absurd (hspares hsame) (by simp [hchange])
    exact find?_change_of_ne h hkey

lemma find?_foldl_of_spares {edits : List Edit} (hspare : ∀ e ∈ edits, Edit.Spares name e) :
    (edits.foldl edit h).find? name = h.find? name := by
  induction edits generalizing h with
  | nil => rfl
  | cons e edits ih =>
    rw [List.foldl_cons, ih fun d hd => hspare d (List.mem_cons_of_mem e hd),
      find?_edit_of_spares (hspare e List.mem_cons_self)]

/-- A header keeps the date that it was given last, whatever the spelling of its name. -/
lemma IsDated.get? {millis : ℕ} {other text : String} (hdated : h.IsDated name millis)
    (hwrite : HttpDate.write millis = .ok text) (hkey : key other = key name) :
    h.get? other = some text := by
  obtain ⟨before, after, rfl, hspare⟩ := hdated
  have hset : (ofEdits before).edit (.setDate name millis) = (ofEdits before).set name text := by
    rw [edit, setDate_of_write hwrite]
  have hvalues : ((ofEdits before).set name text).getAll name = [text] := by
    rw [getAll_set, if_pos rfl]
  rw [Headers.get?, find?_congr _ hkey, ofEdits_append, List.foldl_cons,
    find?_foldl_of_spares hspare, hset, ← Headers.get?, get?_eq_head?_getAll, hvalues]
  rfl

end Headers

/-! ### How a date begins -/

namespace Stamp
open Text

variable {s : List Char} {t : Stamp}

lemma shortName_prefix_fullName (w : Weekday) : w.shortName.toList <+: w.fullName.toList := by
  cases w <;> decide

/-- Every form of a date begins with the short name of the weekday. -/
lemma shortName_prefix_of_ofText? (h : ofText? s = some t) : t.weekday.shortName.toList <+: s := by
  rw [ofText?, Option.orElse_eq_some, Option.orElse_eq_some] at h
  rcases h with hfix | ⟨-, hlong | ⟨-, hspaced⟩⟩
  · rw [eq_fixdate_of_fixdate? hfix]
    simp only [fixdate, List.append_assoc]
    exact List.prefix_append _ _
  · obtain ⟨between, hs, -⟩ := eq_longDate_of_longWeekday? hlong
    rw [hs]
    simp only [longDate, List.append_assoc]
    exact (shortName_prefix_fullName t.weekday).trans (List.prefix_append _ _)
  · obtain ⟨day, -, hs⟩ := eq_spacedDate_of_asctime? hspaced
    rw [hs]
    simp only [spacedDate, List.append_assoc]
    exact List.prefix_append _ _

/-- No form of a date begins with a digit. -/
lemma not_isDigit_of_ofText? (h : ofText? s = some t) : ∀ c ∈ s.head?, ¬ IsDigit c := by
  obtain ⟨rest, rfl⟩ := shortName_prefix_of_ofText? h
  intro c hc
  cases hw : t.weekday <;> simp [hw, Weekday.shortName] at hc <;> (subst hc; decide)

end Stamp

/-! ### The expected date -/

namespace HttpDate

/-- Blanks around a text make no difference to the date that is read. -/
lemma read_trim (text : String) : read (Text.trim text) = read text := by
  rw [read, read, stamp?, stamp?, Text.toList_trim, Text.trimChars_trimChars]

/-- Two instants lie in the same second if the same is left of them without milliseconds. -/
lemma truncate_eq_truncate_iff {millis other : ℕ} :
    truncate millis = truncate other ↔ millis / 1000 = other / 1000 := by
  rw [truncate_eq, truncate_eq]
  omega

lemma trim_of_write {millis : ℕ} {text : String} (hwrite : write millis = .ok text) :
    Text.trim text = text := by
  unfold write at hwrite
  split at hwrite
  · exact absurd hwrite (by simp)
  · obtain rfl := Except.ok.inj hwrite
    rw [Text.trim, String.toList_ofList, trimChars_fixdate]

end HttpDate

namespace HeaderExpectation
open Text

variable {r : Response} {name v : String} {millis : ℕ}

/-- The expected date is told as it would be written, or by its milliseconds. -/
lemma describeDate_cases (millis : ℕ) :
    HttpDate.write millis = .ok (describeDate millis)
      ∨ HttpDate.limit ≤ millis ∧ describeDate millis = decimal millis ++ " ms since epoch" := by
  rw [describeDate]
  rcases Nat.lt_or_ge millis HttpDate.limit with hlt | hle
  · obtain ⟨text, hwrite⟩ := HttpDate.exists_write hlt
    rw [hwrite]
    exact .inl rfl
  · rw [HttpDate.write_eq_error hle]
    exact .inr ⟨hle, rfl⟩

/-- A numeral begins with a digit, whatever follows it. -/
lemma exists_digit_cons_decimal (n : ℕ) (rest : String) :
    ∃ c tail, (decimal n ++ rest).toList = c :: tail ∧ IsDigit c := by
  have hnumeral := isNumeral_decimalChars n
  obtain ⟨c, digits, hdigits⟩ := List.exists_cons_of_ne_nil hnumeral.ne_nil
  refine ⟨c, digits ++ rest.toList, ?_, hnumeral.isDigit c ?_⟩
  · rw [String.toList_append, decimal, String.toList_ofList, hdigits, List.cons_append]
  · rw [hdigits]
    exact List.mem_cons_self

/-- The expected date is told without blanks around it. -/
lemma trim_describeDate (millis : ℕ) : trim (describeDate millis) = describeDate millis := by
  rcases describeDate_cases millis with hwrite | ⟨-, htext⟩
  · exact HttpDate.trim_of_write hwrite
  · obtain ⟨c, tail, hchars, hdigit⟩ := exists_digit_cons_decimal millis " ms since epoch"
    have hlast : (decimal millis ++ " ms since epoch").toList.getLast? = some 'h' := by
      rw [String.toList_append, List.getLast?_append]
      rfl
    have hkept : trimChars (c :: tail) = c :: tail := by
      apply trimChars_eq_self
      · rintro d ⟨⟩
        exact hdigit.not_isBlank
      · rw [← hchars, hlast]
        rintro d ⟨⟩
        decide
    rw [htext, trim, hchars, hkept, ← hchars, String.ofList_toList]

/-- **The expected date is no other date**: if what a failure tells as the expected date can be
read as a date, it is that of the expected second. -/
lemma eq_truncate_of_read_describeDate {actual : ℕ}
    (hread : HttpDate.read (describeDate millis) = .ok actual) :
    actual = HttpDate.truncate millis := by
  rcases describeDate_cases millis with hwrite | ⟨-, htext⟩
  · rw [HttpDate.read_write hwrite] at hread
    exact (Except.ok.inj hread).symm
  · -- the milliseconds begin with a digit, and no date does
    exfalso
    obtain ⟨t, hstamp, -⟩ := HttpDate.exists_of_read hread
    obtain ⟨-, hform⟩ := HttpDate.ofText?_of_stamp? hstamp
    obtain ⟨c, tail, hchars, hdigit⟩ := exists_digit_cons_decimal millis " ms since epoch"
    rw [← toList_trim, trim_describeDate, htext, hchars] at hform
    exact Stamp.not_isDigit_of_ofText? hform c rfl hdigit

/-! ### The check of a date -/

lemma checkDate_eq_ok_iff :
    checkDate name millis v = .ok () ↔ HttpDate.read v = .ok (HttpDate.truncate millis) := by
  rw [checkDate]
  cases HttpDate.read v with
  | error error => simp
  | ok actual =>
    dsimp only
    split
    · next hsame => simp [hsame]
    · next hother => simpa using hother

/-- **Dates are expected to the second.**  A header that was dated last has the date of every
instant of that second, and of no other instant, however late.  And a value that is a date in any
form, but not the expected one, is told as it is, together with the expected date as it would be
written, or with its milliseconds, which is another text. -/
theorem check_date_exact :
    (∀ (r : Response) (name other : String) (millis expected : ℕ), millis < HttpDate.limit →
        r.headers.IsDated name millis → Headers.key other = Headers.key name →
        ((date other expected).check r = .ok () ↔ millis / 1000 = expected / 1000))
      ∧ ∀ (r : Response) (name v : String) (actual expected : ℕ) (failure : Failure),
        r.headers.get? name = some v → HttpDate.read v = .ok actual →
        (date name expected).check r = .error failure →
        ∃ text, failure = .headerMismatch name text v
          ∧ (HttpDate.write expected = .ok text
            ∨ HttpDate.limit ≤ expected ∧ text = decimal expected ++ " ms since epoch")
          ∧ text ≠ v ∧ text ≠ trim v := by
  constructor
  · intro r name other millis expected hlt hdated hkey
    obtain ⟨text, hwrite⟩ := HttpDate.exists_write hlt
    rw [check, bind_required_of_get? (hdated.get? hwrite hkey), checkDate_eq_ok_iff,
      HttpDate.read_write hwrite, Except.ok.injEq, HttpDate.truncate_eq_truncate_iff]
  · intro r name v actual expected failure hfirst hread hfail
    rw [check, bind_required_of_get? hfirst, checkDate_eq_error_iff, hread] at hfail
    rcases hfail with ⟨_, ⟨⟩, -⟩ | ⟨_, ⟨⟩, hwrong, hfailure⟩
    have htrim : describeDate expected ≠ trim v := by
      intro hsame
      rw [← HttpDate.read_trim, ← hsame] at hread
      exact hwrong (eq_truncate_of_read_describeDate hread)
    refine ⟨describeDate expected, hfailure, describeDate_cases expected, ?_, htrim⟩
    -- the expected text has no blanks to lose
    rintro rfl
    exact htrim (trim_describeDate expected).symm

/-- A page that is dated again, and then with an instant that has no HTTP-date, has the date that
was written last, to the second; and a date in the form of the C library is told as it is. -/
theorem check_date_exact_again :
    let edits : List Headers.Edit := [.append "DATE" "never", .setDate "Date" 784111777999,
      .append "Vary" "a", .setDate "date" 253402300800000]
    (date "date" 784111777000).check ⟨.ok, .ofEdits edits, .empty⟩ = .ok ()
      ∧ (date "Date" 18446744073709551615).check
          (Response.ok.withHeader "Date" "Sun Nov  6 08:49:37 1994")
        = .error (.headerMismatch "Date" "18446744073709551615 ms since epoch"
            "Sun Nov  6 08:49:37 1994") := by
  intro edits
  obtain ⟨hdated, hwrong⟩ := check_date_exact
  constructor
  · -- through the folded names, so that two spellings are not compared by evaluation
    obtain ⟨hDate, hdate, hvary⟩ : Headers.key "Date" = "date" ∧ Headers.key "date" = "date"
        ∧ Headers.key "Vary" = "vary" := by decide +kernel
    have hlast : (Headers.ofEdits edits).IsDated "Date" 784111777999 := by
      refine ⟨[.append "DATE" "never"], [.append "Vary" "a", .setDate "date" 253402300800000], rfl,
        ?_⟩
      rw [List.forall_mem_cons, List.forall_mem_singleton]
      constructor
      · intro hkey
        rw [Headers.Edit.name, hvary, hDate] at hkey
        exact absurd hkey (by decide)
      · intro _
        decide +kernel
    exact (hdated _ "Date" "date" 784111777999 784111777000 (by decide) hlast
      (hdate.trans hDate.symm)).2 (by decide)
  · have hfirst : (Response.ok.withHeader "Date" "Sun Nov  6 08:49:37 1994").headers.get? "Date"
        = some "Sun Nov  6 08:49:37 1994" := by decide +kernel
    have hread : HttpDate.read "Sun Nov  6 08:49:37 1994" = .ok 784111777000 := by decide +kernel
    cases hcheck : (date "Date" 18446744073709551615).check
        (Response.ok.withHeader "Date" "Sun Nov  6 08:49:37 1994") with
    | ok =>
      rw [check, bind_required_of_get? hfirst, checkDate_eq_ok_iff, hread] at hcheck
      exact absurd hcheck (by decide)
    | error failure =>
      obtain ⟨text, rfl, hwrite | ⟨-, rfl⟩, -⟩ := hwrong _ _ _ _ _ _ hfirst hread hcheck
      · rw [HttpDate.write_eq_error (by decide)] at hwrite
        exact absurd hwrite (by simp)
      · have hdigits : decimal 18446744073709551615 = "18446744073709551615" := by decide +kernel
        rw [hdigits]
        rfl

end HeaderExpectation
end HttpMock
