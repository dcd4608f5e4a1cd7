/-
# The ways to expect that a header is absent

That a header is not there can be expected in many words: of the header itself, of its first value,
which is then none, and of its list of values, which is then empty.  Each of them looks the header
up in another way.  On maps that edits made they all come to the same, in every spelling of the
name, because no header is there without a value; and a header whose value is the empty text is
there for all of them.  A literal and the matcher that asks for just that literal are one
expectation too.

The main result is `HeaderExpectation.check_absence_agrees`.
-/
import HttpMock.Proofs.FailureKinds

namespace HttpMock

/-! ### Nothing to be found -/

namespace Headers.IsWellFormed

variable {h : Headers} (hwf : h.IsWellFormed) (name : String)

include hwf

lemma get?_eq_none_iff_absent : h.get? name = none ↔ h.contains name = false := by
  rcases hwf.lookup_cases name with ⟨habsent, hnone, -⟩ | ⟨first, hpresent, hsome, -⟩
  · simp [habsent, hnone]
  · simp [hpresent, hsome]

lemma getAll_eq_nil_iff_absent : h.getAll name = [] ↔ h.contains name = false := by
  rw [← hwf.get?_eq_none_iff_absent, get?_eq_head?_getAll, List.head?_eq_none_iff]

end Headers.IsWellFormed

/-- A check that does not hold tells a failure. -/
lemma exists_eq_error_iff {result : Except Failure Unit} :
    (∃ failure, result = .error failure) ↔ result ≠ .ok () := by
  cases result <;> simp

namespace HeaderExpectation

variable {r : Response} {name : String}

/-! ### When an expectation holds -/

lemma check_value_eq_ok_iff {expected : Expected} :
    (value name expected).check r = .ok () ↔ expected.accepts (r.headers.get? name) = true := by
  simp [check]

lemma check_values_eq_ok_iff_accepts {expected : ExpectedValues} :
    (values name expected).check r = .ok () ↔ expected.accepts (r.headers.getAll name) = true := by
  simp [check]

lemma check_isAbsent_eq_ok_iff :
    (isAbsent name).check r = .ok () ↔ r.headers.contains name = false := by
  simp [check]

/-- A header is expected to be there, and found missing, if it has no first value. -/
lemma check_isPresent_of_get? :
    (isPresent name).check r
      = if (r.headers.get? name).isSome then .ok () else .error (.headerMissing name) := by
  rw [check, required]
  cases r.headers.get? name <;> rfl

/-! ### All ways agree -/

/-- **All ways to expect that a header is absent agree**, whatever the spelling of its name: they
hold of the responses that do not have it, and of no response that has it, if only with the empty
value.  A literal is expected as its matcher is, and so is a list of literals. -/
theorem check_absence_agrees (r : Response) (hreach : r.headers.IsReachable) :
    (∀ name, [r.headers.contains name = false,
        (isAbsent name).check r = .ok (),
        ∃ failure, (isPresent name).check r = .error failure,
        (isPresent name).check r = .error (.headerMissing name),
        (value name (.matcher .isAbsent)).check r = .ok (),
        ∃ failure, (value name (.matcher .isPresent)).check r = .error failure,
        (noValues name).check r = .ok (),
        (values name (.values [])).check r = .ok (),
        (valuesMatching name .isEmpty).check r = .ok ()].TFAE)
      ∧ (∀ name other, Headers.key other = Headers.key name →
        ((isAbsent other).check r = .ok () ↔ (isAbsent name).check r = .ok ()))
      ∧ (∀ name, r.headers.get? name = some "" →
        (isPresent name).check r = .ok () ∧ (value name (.matcher .isPresent)).check r = .ok ()
          ∧ ∃ failure, (isAbsent name).check r = .error failure)
      ∧ (∀ name text, (value name (.value text)).check r = .ok ()
        ↔ (value name (.matcher (.equalTo text))).check r = .ok ())
      ∧ ∀ name list, (values name (.values list)).check r = .ok ()
        ↔ (valuesMatching name (.exactly list)).check r = .ok () := by
  have hwf := hreach.isWellFormed
  refine ⟨?_, ?_, ?_, ?_, ?_⟩
  · intro name
    have hfirst := hwf.get?_eq_none_iff_absent name
    have hall := hwf.getAll_eq_nil_iff_absent name
    tfae_have 1 ↔ 2 := check_isAbsent_eq_ok_iff.symm
    tfae_have 1 ↔ 4 := by
      rw [check_isPresent_of_get?, ← hfirst]
      cases r.headers.get? name <;> simp
    tfae_have 3 ↔ 4 := by
      rw [check_isPresent_of_get?]
      cases r.headers.get? name <;> simp
    tfae_have 1 ↔ 5 := by
      rw [check_value_eq_ok_iff, ← hfirst]
      exact Option.isNone_iff_eq_none.symm
    tfae_have 1 ↔ 6 := by
      rw [exists_eq_error_iff, Ne, check_value_eq_ok_iff, ← hfirst]
      exact Option.not_isSome_iff_eq_none.symm
    tfae_have 1 ↔ 8 := by
      rw [check_values_eq_ok_iff_accepts, ← hall, ExpectedValues.accepts, beq_iff_eq, eq_comm]
    tfae_have 7 ↔ 8 := Iff.rfl
    tfae_have 9 ↔ 8 := by
      rw [valuesMatching, check_values_eq_ok_iff_accepts, check_values_eq_ok_iff_accepts]
      rfl
    tfae_finish
  · intro name other hkey
    rw [check_isAbsent_eq_ok_iff, check_isAbsent_eq_ok_iff, Headers.contains, Headers.contains,
      Headers.find?_congr _ hkey]
  · intro name hempty
    have hpresent : ¬ r.headers.contains name = false := by
      rw [← hwf.get?_eq_none_iff_absent, hempty]
      exact Option.some_ne_none ""
    rw [check_isPresent_of_get?, check_value_eq_ok_iff, exists_eq_error_iff, Ne,
      check_isAbsent_eq_ok_iff, hempty]
    exact ⟨rfl, rfl, hpresent⟩
  · intro name text
    rw [check_value_eq_ok_iff, check_value_eq_ok_iff, Expected.accepts, Expected.accepts,
      ValueMatcher.accepts]
  · intro name list
    rw [valuesMatching, check_values_eq_ok_iff_accepts, check_values_eq_ok_iff_accepts]
    rfl

/-- A header that was stored with the empty value is there for every expectation, and one that was
removed is there for none, whatever the spellings. -/
theorem check_absence_agrees_empty :
    let r := Response.mk .ok (((Headers.empty.set "Vary" "a").erase "VARY").set "ETag" "") .empty
    (isPresent "etag").check r = .ok ()
      ∧ ¬ (noValues "etag").check r = .ok ()
      ∧ (valuesMatching "vary" .isEmpty).check r = .ok ()
      ∧ (isPresent "vary").check r = .error (.headerMissing "vary") := by
  intro r
  have hreach : r.headers.IsReachable :=
    ((Headers.IsReachable.empty.set "Vary" "a").erase "VARY").set "ETag" ""
  obtain ⟨hways, -, hempty, -⟩ := check_absence_agrees r hreach
  -- through the folded names, so that two spellings are not compared by evaluation
  obtain ⟨hETag, hetag, hVARY, hvary⟩ : Headers.key "ETag" = "etag" ∧ Headers.key "etag" = "etag"
      ∧ Headers.key "VARY" = "vary" ∧ Headers.key "vary" = "vary" := by decide +kernel
  have hstored : r.headers.get? "etag" = some "" := by
    rw [Headers.get?_eq_head?_getAll, Headers.getAll_set, hETag, hetag]
    rfl
  have hremoved : r.headers.contains "vary" = false := by
    rw [Headers.contains_set, Headers.contains_erase, hETag, hVARY, hvary]
    rfl
  obtain ⟨hpresent, -, hfails⟩ := hempty "etag" hstored
  refine ⟨hpresent, ?_, ((hways "vary").out 0 8).1 hremoved, ((hways "vary").out 0 3).1 hremoved⟩
  intro hnone
  have habsent := ((hways "etag").out 1 6).2 hnone
  exact exists_eq_error_iff.1 hfails habsent

end HeaderExpectation
end HttpMock
