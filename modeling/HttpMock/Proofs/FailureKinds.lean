/-
# Why an expectation about a header fails

An expectation about a header is checked by looking the header up, in one of three ways, and
comparing what is found.  `HeaderExpectation.Fails` says, one case for each way to fail, when an
expectation does not hold of a header map and which failure tells so.  Since all ways to look up a
header agree on a map that edits made, a failure then says exactly what is wrong: whether the header
is missing, or there where it should not be, or cannot be read, or is another than expected.

* `HeaderExpectation.check_eq_error_iff`: the check fails as it should and in no other way;
* `HeaderExpectation.check_failsExactly`: the kind of a failure, the name and the values it tells.
-/
import HttpMock.Expect.Expectation
import HttpMock.Proofs.HeaderInvariant

namespace HttpMock

/-- A header is not there for any lookup, or it is there for all and has a first value. -/
lemma Headers.IsWellFormed.lookup_cases {h : Headers} (hwf : h.IsWellFormed) (name : String) :
    (h.contains name = false ∧ h.get? name = none ∧ (h.getAll name).head? = none)
      ∨ ∃ first, h.contains name = true ∧ h.get? name = some first
        ∧ (h.getAll name).head? = some first := by
  rw [← Headers.get?_eq_head?_getAll, contains, get?]
  cases hfind : h.find? name with
  | none => exact .inl ⟨rfl, rfl, rfl⟩
  | some f =>
    obtain ⟨first, rest, hvalues⟩ :=
      List.exists_cons_of_ne_nil (hwf.values_ne_nil_of_find? hfind)
    exact .inr ⟨first, rfl, by simp [hvalues]⟩

/-- A header that has a first value is there. -/
lemma Headers.contains_of_mem_head? {h : Headers} {name first : String}
    (hfirst : first ∈ (h.getAll name).head?) : h.contains name = true := by
  by_contra hnone
  rw [getAll_of_contains_eq_false (Bool.eq_false_iff.2 hnone)] at hfirst
  exact absurd hfirst (by simp)

namespace HeaderExpectation

/-! ### Ways to fail -/

/-- An expectation that cannot hold where the header is not there, whatever else is expected. -/
inductive NeedsHeader : HeaderExpectation → Prop
  | date (name : String) (millis : ℕ) : NeedsHeader (.date name millis)
  | integer (name : String) (expected : ℤ) : NeedsHeader (.integer name expected)
  | isPresent (name : String) : NeedsHeader (.isPresent name)

/-- An expectation does not hold of a header map, and a failure tells why. -/
inductive Fails (h : Headers) : HeaderExpectation → Failure → Prop
  | missing {e : HeaderExpectation} (hneeds : e.NeedsHeader) (habsent : h.contains e.name = false) :
    Fails h e (.headerMissing e.name)
  | present {name : String} (hpresent : h.contains name = true) :
    Fails h (.isAbsent name) (.headerPresent name)
  | noValue {name : String} {expected : Expected} (habsent : h.contains name = false)
      (hwrong : expected.accepts none = false) :
    Fails h (.value name expected) (.headerMismatch name expected.describe "null")
  | otherValue {name first : String} {expected : Expected} (hfirst : first ∈ (h.getAll name).head?)
      (hwrong : expected.accepts (some first) = false) :
    Fails h (.value name expected) (.headerMismatch name expected.describe first)
  | otherValues {name : String} {expected : ExpectedValues}
      (hwrong : expected.accepts (h.getAll name) = false) :
    Fails h (.values name expected) (.headerMismatch name expected.describe
      ("[" ++ ", ".intercalate (h.getAll name) ++ "]"))
  | notADate {name first : String} {millis : ℕ} {error : DateError}
      (hfirst : first ∈ (h.getAll name).head?) (hread : HttpDate.read first = .error error) :
    Fails h (.date name millis) (.notADate name first)
  | otherDate {name first : String} {millis actual : ℕ} (hfirst : first ∈ (h.getAll name).head?)
      (hread : HttpDate.read first = .ok actual) (hwrong : actual ≠ HttpDate.truncate millis) :
    Fails h (.date name millis) (.headerMismatch name (describeDate millis) first)
  | notAnInteger {name first : String} {expected : ℤ} (hfirst : first ∈ (h.getAll name).head?)
      (hread : Text.signed64? (Text.trimChars first.toList) = none) :
    Fails h (.integer name expected) (.notAnInteger name first)
  | otherInteger {name first : String} {expected actual : ℤ}
      (hfirst : first ∈ (h.getAll name).head?)
      (hread : Text.signed64? (Text.trimChars first.toList) = some actual)
      (hwrong : actual ≠ expected) :
    Fails h (.integer name expected) (.headerMismatch name (Text.decimalInt expected) first)

variable {r : Response} {name : String} {failure : Failure}

lemma checkDate_eq_error_iff {millis : ℕ} {text : String} :
    checkDate name millis text = .error failure
      ↔ (∃ error, HttpDate.read text = .error error ∧ failure = .notADate name text)
        ∨ ∃ actual, HttpDate.read text = .ok actual ∧ actual ≠ HttpDate.truncate millis
          ∧ failure = .headerMismatch name (describeDate millis) text := by
  rw [checkDate]
  cases HttpDate.read text with
  | error error => simp [eq_comm]
  | ok actual =>
    dsimp only
    split
    · next hsame =>
      refine iff_of_false (by simp) ?_
      rintro (⟨_, ⟨⟩, -⟩ | ⟨_, ⟨⟩, hother, -⟩)
      exact hother hsame
    · next hother =>
      constructor
      · intro h
        exact .inr ⟨actual, rfl, hother, (Except.error.inj h).symm⟩
      · rintro (⟨_, ⟨⟩, -⟩ | ⟨_, ⟨⟩, -, rfl⟩)
        rfl

lemma checkInteger_eq_error_iff {expected : ℤ} {text : String} :
    checkInteger name expected text = .error failure
      ↔ (Text.signed64? (Text.trimChars text.toList) = none ∧ failure = .notAnInteger name text)
        ∨ ∃ actual, Text.signed64? (Text.trimChars text.toList) = some actual ∧ actual ≠ expected
          ∧ failure = .headerMismatch name (Text.decimalInt expected) text := by
  rw [checkInteger]
  cases Text.signed64? (Text.trimChars text.toList) with
  | none => simp [eq_comm]
  | some actual =>
    dsimp only
    split
    · next hsame => simp [hsame]
    · next hother => simpa [hother] using eq_comm

/-- Of a header that is there, the first value is looked at. -/
lemma bind_required_of_get? {text : String} (hfirst : r.headers.get? name = some text)
    (look : String → Except Failure Unit) : (required r name).bind look = look text := by
  rw [required, hfirst]
  rfl

/-- A header that has to be there is found missing, or its first value is looked at. -/
lemma bind_required_eq_error_iff (hwf : r.headers.IsWellFormed)
    {look : String → Except Failure Unit} :
    (required r name).bind look = .error failure
      ↔ (r.headers.contains name = false ∧ failure = .headerMissing name)
        ∨ ∃ first ∈ (r.headers.getAll name).head?, look first = .error failure := by
  rcases hwf.lookup_cases name with ⟨habsent, hnone, hhead⟩ | ⟨first, hpresent, hsome, hhead⟩
  · simp [required, hnone, habsent, hhead, Except.bind, eq_comm]
  · simp [required, hsome, hpresent, hhead, Except.bind]

lemma check_value_eq_error_iff (hwf : r.headers.IsWellFormed) {expected : Expected} :
    (value name expected).check r = .error failure
      ↔ Fails r.headers (value name expected) failure := by
  simp only [check]
  constructor
  · intro hcheck
    split at hcheck
    · exact absurd hcheck (by simp)
    next hwrong =>
    obtain rfl := Except.error.inj hcheck
    have hwrong := Bool.eq_false_iff.2 hwrong
    -- an absent header is compared too: as no value
    rcases hwf.lookup_cases name with ⟨habsent, hnone, -⟩ | ⟨first, -, hsome, hfirst⟩
    · rw [hnone] at hwrong ⊢
      exact .noValue habsent hwrong
    · rw [hsome] at hwrong ⊢
      exact .otherValue hfirst hwrong
  · intro hfails
    cases hfails with
    | missing hneeds => cases hneeds
    | noValue habsent hwrong =>
      rw [Headers.get?_eq_head?_getAll, Headers.getAll_of_contains_eq_false habsent,
        List.head?_nil, hwrong]
      rfl
    | otherValue hfirst hwrong =>
      rw [Headers.get?_eq_head?_getAll, hfirst, hwrong]
      rfl

lemma check_values_eq_error_iff {expected : ExpectedValues} :
    (values name expected).check r = .error failure
      ↔ Fails r.headers (values name expected) failure := by
  simp only [check]
  constructor
  · intro hcheck
    split at hcheck
    · exact absurd hcheck (by simp)
    next hwrong =>
    obtain rfl := Except.error.inj hcheck
    exact .otherValues (Bool.eq_false_iff.2 hwrong)
  · intro hfails
    cases hfails with
    | missing hneeds => cases hneeds
    | otherValues hwrong =>
      rw [hwrong]
      rfl

lemma check_date_eq_error_iff (hwf : r.headers.IsWellFormed) {millis : ℕ} :
    (date name millis).check r = .error failure
      ↔ Fails r.headers (date name millis) failure := by
  rw [check, bind_required_eq_error_iff hwf]
  simp only [checkDate_eq_error_iff]
  constructor
  · rintro (⟨habsent, rfl⟩ | ⟨first, hfirst, ⟨error, hread, rfl⟩ | ⟨actual, hread, hwrong, rfl⟩⟩)
    · exact .missing (.date name millis) habsent
    · exact .notADate hfirst hread
    · exact .otherDate hfirst hread hwrong
  · intro hfails
    cases hfails with
    | missing _ habsent => exact .inl ⟨habsent, rfl⟩
    | notADate hfirst hread => exact .inr ⟨_, hfirst, .inl ⟨_, hread, rfl⟩⟩
    | otherDate hfirst hread hwrong => exact .inr ⟨_, hfirst, .inr ⟨_, hread, hwrong, rfl⟩⟩

lemma check_integer_eq_error_iff (hwf : r.headers.IsWellFormed) {expected : ℤ} :
    (integer name expected).check r = .error failure
      ↔ Fails r.headers (integer name expected) failure := by
  rw [check, bind_required_eq_error_iff hwf]
  simp only [checkInteger_eq_error_iff]
  constructor
  · rintro (⟨habsent, rfl⟩ | ⟨first, hfirst, ⟨hread, rfl⟩ | ⟨actual, hread, hwrong, rfl⟩⟩)
    · exact .missing (.integer name expected) habsent
    · exact .notAnInteger hfirst hread
    · exact .otherInteger hfirst hread hwrong
  · intro hfails
    cases hfails with
    | missing _ habsent => exact .inl ⟨habsent, rfl⟩
    | notAnInteger hfirst hread => exact .inr ⟨_, hfirst, .inl ⟨hread, rfl⟩⟩
    | otherInteger hfirst hread hwrong => exact .inr ⟨_, hfirst, .inr ⟨_, hread, hwrong, rfl⟩⟩

lemma check_isPresent_eq_error_iff (hwf : r.headers.IsWellFormed) :
    (isPresent name).check r = .error failure ↔ Fails r.headers (isPresent name) failure := by
  have hmap : (isPresent name).check r = (required r name).bind fun _ => .ok () := by
    rw [check]
    cases required r name <;> rfl
  rw [hmap, bind_required_eq_error_iff hwf]
  constructor
  · rintro (⟨habsent, rfl⟩ | ⟨first, -, hnone⟩)
    · exact .missing (.isPresent name) habsent
    · exact absurd hnone (by simp)
  · intro hfails
    cases hfails with
    | missing _ habsent => exact .inl ⟨habsent, rfl⟩

lemma check_isAbsent_eq_error_iff :
    (isAbsent name).check r = .error failure ↔ Fails r.headers (isAbsent name) failure := by
  simp only [check]
  constructor
  · intro hcheck
    split at hcheck
    · next hpresent =>
      obtain rfl := Except.error.inj hcheck
      exact .present hpresent
    · exact absurd hcheck (by simp)
  · intro hfails
    cases hfails with
    | missing hneeds => cases hneeds
    | present hpresent => rw [if_pos hpresent]

/-- **The check fails** where the expectation does not hold, with the failure that tells why. -/
theorem check_eq_error_iff (hwf : r.headers.IsWellFormed) (e : HeaderExpectation) :
    e.check r = .error failure ↔ Fails r.headers e failure := by
  cases e with
  | value name expected => exact check_value_eq_error_iff hwf
  | values name expected => exact check_values_eq_error_iff
  | date name millis => exact check_date_eq_error_iff hwf
  | integer name expected => exact check_integer_eq_error_iff hwf
  | isPresent name => exact check_isPresent_eq_error_iff hwf
  | isAbsent name => exact check_isAbsent_eq_error_iff

/-! ### What a failure says -/

/-- The text that a mismatch tells as the actual one: the word for nothing where there is no value
to compare, all values in brackets where all are compared, and the first value in every other
case. -/
inductive ShowsActual (h : Headers) : HeaderExpectation → String → Prop
  | nothing {name : String} {expected : Expected} (habsent : h.contains name = false) :
    ShowsActual h (.value name expected) "null"
  | first {e : HeaderExpectation} {first : String} (hone : ∀ name expected, e ≠ .values name expected)
      (hfirst : first ∈ (h.getAll e.name).head?) : ShowsActual h e first
  | all {name : String} {expected : ExpectedValues} :
    ShowsActual h (.values name expected) ("[" ++ ", ".intercalate (h.getAll name) ++ "]")

/-- What the failures of an expectation on a response say. -/
structure FailsExactly (e : HeaderExpectation) (r : Response) : Prop where
  /-- Every failure is about the header, and tells its name as the expectation spells it. -/
  named : ∀ failure, e.check r = .error failure → failure.headerName? = some e.name
  missing : e.check r = .error (.headerMissing e.name)
    ↔ e.NeedsHeader ∧ r.headers.contains e.name = false
  present : e.check r = .error (.headerPresent e.name)
    ↔ (∃ name, e = .isAbsent name) ∧ r.headers.contains e.name = true
  notADate : ∀ value, e.check r = .error (.notADate e.name value)
    ↔ (∃ name millis, e = .date name millis) ∧ r.headers.contains e.name = true
      ∧ value ∈ (r.headers.getAll e.name).head? ∧ ∃ error, HttpDate.read value = .error error
  notAnInteger : ∀ value, e.check r = .error (.notAnInteger e.name value)
    ↔ (∃ name expected, e = .integer name expected) ∧ r.headers.contains e.name = true
      ∧ value ∈ (r.headers.getAll e.name).head?
      ∧ Text.signed64? (Text.trimChars value.toList) = none
  /-- Every other failure is a mismatch. -/
  mismatch : ∀ failure, e.check r = .error failure →
    failure ≠ .headerMissing e.name → failure ≠ .headerPresent e.name →
    (∀ value, failure ≠ .notADate e.name value) → (∀ value, failure ≠ .notAnInteger e.name value) →
    ∃ expected actual, failure = .headerMismatch e.name expected actual
      ∧ ShowsActual r.headers e actual

/-- **The failures of an expectation are exact** on every response whose headers edits made. -/
theorem check_failsExactly (e : HeaderExpectation) (r : Response)
    (hreach : r.headers.IsReachable) : e.FailsExactly r where
  named failure hcheck := by
    cases (check_eq_error_iff hreach.isWellFormed e).1 hcheck <;> rfl
  missing := by
    rw [check_eq_error_iff hreach.isWellFormed]
    constructor
    · intro hfails
      cases hfails with
      | missing hneeds habsent => exact ⟨hneeds, habsent⟩
    · rintro ⟨hneeds, habsent⟩
      exact .missing hneeds habsent
  present := by
    rw [check_eq_error_iff hreach.isWellFormed]
    constructor
    · intro hfails
      cases hfails with
      | present hpresent => exact ⟨⟨_, rfl⟩, hpresent⟩
    · rintro ⟨⟨name, rfl⟩, hpresent⟩
      exact .present hpresent
  notADate value := by
    rw [check_eq_error_iff hreach.isWellFormed]
    constructor
    · intro hfails
      cases hfails with
      | notADate hfirst hread =>
        exact ⟨⟨_, _, rfl⟩, Headers.contains_of_mem_head? hfirst, hfirst, _, hread⟩
    · rintro ⟨⟨name, millis, rfl⟩, -, hfirst, error, hread⟩
      exact .notADate hfirst hread
  notAnInteger value := by
    rw [check_eq_error_iff hreach.isWellFormed]
    constructor
    · intro hfails
      cases hfails with
      | notAnInteger hfirst hread =>
        exact ⟨⟨_, _, rfl⟩, Headers.contains_of_mem_head? hfirst, hfirst, hread⟩
    · rintro ⟨⟨name, expected, rfl⟩, -, hfirst, hread⟩
      exact .notAnInteger hfirst hread
  mismatch failure hcheck hmissing hpresent hdate hinteger := by
    cases (check_eq_error_iff hreach.isWellFormed e).1 hcheck with
    | missing => exact absurd rfl hmissing
    | present => exact absurd rfl hpresent
    | notADate => exact absurd rfl (hdate _)
    | notAnInteger => exact absurd rfl (hinteger _)
    | noValue habsent => exact ⟨_, _, rfl, .nothing habsent⟩
    | otherValue hfirst => exact ⟨_, _, rfl, .first (by simp) hfirst⟩
    | otherValues => exact ⟨_, _, rfl, .all⟩
    | otherDate hfirst => exact ⟨_, _, rfl, .first (by simp) hfirst⟩
    | otherInteger hfirst => exact ⟨_, _, rfl, .first (by simp) hfirst⟩

/-- A date that cannot be read is told apart from a header that is missing, and both failures spell
the name as the expectation does. -/
theorem check_failsExactly_date :
    let r := (Response.ok.withHeader "Expires" "0").withHeader "Age" ""
    (date "EXPIRES" 0).check r = .error (.notADate "EXPIRES" "0")
      ∧ (integer "Retry-After" 7).check r = .error (.headerMissing "Retry-After") := by
  intro r
  have hreach : r.headers.IsReachable :=
    (Headers.IsReachable.empty.append "Expires" "0").append "Age" ""
  have hread : HttpDate.read "0" = .error .invalid := by decide +kernel
  -- through the folded name, so that the two spellings are not compared by evaluation
  have hkey : Headers.key "EXPIRES" = Headers.key "Expires" := by
    have hupper : Headers.key "EXPIRES" = "expires" := by decide +kernel
    have hmixed : Headers.key "Expires" = "expires" := by decide +kernel
    rw [hupper, hmixed]
  have hpresent : r.headers.contains "EXPIRES" = true := by
    rw [Headers.contains, Headers.find?_congr _ hkey]
    decide +kernel
  have hfirst : (r.headers.getAll "EXPIRES").head? = some "0" := by
    rw [Headers.getAll, Headers.find?_congr _ hkey]
    decide +kernel
  have habsent : r.headers.contains "Retry-After" = false := by decide +kernel
  constructor
  · exact ((check_failsExactly (date "EXPIRES" 0) r hreach).notADate "0").2
      ⟨⟨_, _, rfl⟩, hpresent, hfirst, _, hread⟩
  · exact (check_failsExactly (integer "Retry-After" 7) r hreach).missing.2
      ⟨.integer _ _, habsent⟩

end HeaderExpectation
end HttpMock
