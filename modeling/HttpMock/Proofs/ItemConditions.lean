/-
# Conditions on the items of a list

A condition of this kind lists matchers, and asks of a list of values that each matcher finds one
that it accepts.  So neither the order of the values counts nor how often one of them stands in the
list, and the same holds of the matchers; values that are added do no harm; and a matcher that
accepts no value at all cannot be satisfied, whatever the list.

The values of a header only grow while values are appended to the headers of a map, under whatever
names: `Headers.prefix_foldl_of_appends`.  Hence an expectation with such a condition, once it holds
of a response, goes on to hold.

* `ValuesMatcher.accepts_hasItems_iff`: what the condition says;
* `ValuesMatcher.hasItems_setwise`: what does not count for it, and what is kept.
-/
import HttpMock.Proofs.Absence
import HttpMock.Proofs.MatcherMeaning

namespace HttpMock

/-! ### Growing headers -/

namespace Headers

/-- An edit that adds a value to those of a header. -/
inductive Edit.IsAppend : Edit → Prop
  | append (name value : String) : IsAppend (.append name value)

variable {h : Headers}

/-- A value that is appended leaves the values of every header where they are. -/
lemma prefix_edit_of_append {e : Edit} (he : e.IsAppend) (name : String) :
    h.getAll name <+: (h.edit e).getAll name := by
  cases he with
  | append other value =>
    rw [edit, getAll_append]
    split
    · exact List.prefix_append _ _
    · exact List.prefix_rfl

/-- The values of a header stay at the front of its list while values are appended. -/
theorem prefix_foldl_of_appends {edits : List Edit} (hedits : ∀ e ∈ edits, e.IsAppend)
    (name : String) : h.getAll name <+: (edits.foldl edit h).getAll name := by
  induction edits generalizing h with
  | nil => exact List.prefix_rfl
  | cons e edits ih =>
    obtain ⟨he, hedits⟩ := List.forall_mem_cons.1 hedits
    exact (prefix_edit_of_append he name).trans (ih hedits)

end Headers

/-! ### The condition on the items -/

namespace ValuesMatcher

variable {ms ns : List ValueMatcher} {xs ys : List String}

/-- Every matcher finds a value that meets it. -/
theorem accepts_hasItems_iff :
    (hasItems ms).accepts xs = true ↔ ∀ m ∈ ms, ∃ x ∈ xs, m.Meets (some x) := by
  simp only [accepts, List.all_eq_true, List.any_eq_true, ValueMatcher.accepts_iff_meets]

/-- Fewer matchers ask for less, and more values offer more. -/
lemma accepts_hasItems_mono (hms : ns ⊆ ms) (hxs : xs ⊆ ys)
    (haccepts : (hasItems ms).accepts xs = true) : (hasItems ns).accepts ys = true := by
  rw [accepts_hasItems_iff] at haccepts ⊢
  intro m hm
  obtain ⟨x, hx, hmeets⟩ := haccepts m (hms hm)
  exact ⟨x, hxs hx, hmeets⟩

/-- A matcher that meets no value finds none. -/
lemma accepts_hasItems_of_meets_none {m : ValueMatcher} (hm : m ∈ ms)
    (hnone : ∀ x, ¬ m.Meets (some x)) : (hasItems ms).accepts xs = false := by
  rw [Bool.eq_false_iff]
  intro haccepts
  obtain ⟨x, -, hmeets⟩ := accepts_hasItems_iff.1 haccepts m hm
  exact hnone x hmeets

/-- **A condition on items reads values and matchers as sets**, and grows with the values.  It says
the same of lists that hold the same values, and so do conditions that list the same matchers; it
is kept when values are added; two lists of matchers ask for what each of them asks for; and with a
matcher that can only be met by an absent value it never holds.  So an expectation with such a
condition that holds of a response is kept when values are appended to its headers. -/
theorem hasItems_setwise (ms : List ValueMatcher) (xs : List String) :
    ((hasItems ms).accepts xs = true ↔ ∀ m ∈ ms, ∃ x ∈ xs, m.Meets (some x))
      ∧ (∀ ns ys, (∀ m, m ∈ ns ↔ m ∈ ms) → (∀ x, x ∈ ys ↔ x ∈ xs) →
        (hasItems ns).accepts ys = (hasItems ms).accepts xs)
      ∧ (∀ more, (hasItems ms).accepts xs = true → (hasItems ms).accepts (xs ++ more) = true)
      ∧ (∀ ns, (hasItems (ms ++ ns)).accepts xs
        = ((hasItems ms).accepts xs && (hasItems ns).accepts xs))
      ∧ (.isAbsent ∈ ms ∨ (∃ m ∈ ms, ∀ x, m.accepts (some x) = false) →
        (hasItems ms).accepts xs = false)
      ∧ ∀ (r : Response) (name : String) (edits : List Headers.Edit), (∀ e ∈ edits, e.IsAppend) →
        (HeaderExpectation.valuesMatching name (hasItems ms)).check r = .ok () →
        (HeaderExpectation.valuesMatching name (hasItems ms)).check
          { r with headers := edits.foldl Headers.edit r.headers } = .ok () := by
  refine ⟨accepts_hasItems_iff, ?_, ?_, ?_, ?_, ?_⟩
  · intro ns ys hns hys
    rw [Bool.eq_iff_iff]
    constructor
    · exact accepts_hasItems_mono (fun m => (hns m).2) fun x => (hys x).1
    · exact accepts_hasItems_mono (fun m => (hns m).1) fun x => (hys x).2
  · intro more
    exact accepts_hasItems_mono (List.Subset.refl ms) (List.subset_append_left xs more)
  · intro ns
    exact List.all_append
  · rintro (hm | ⟨m, hm, hnone⟩)
    · exact accepts_hasItems_of_meets_none hm fun x => by simp [ValueMatcher.Meets]
    · refine accepts_hasItems_of_meets_none hm fun x hmeets => ?_
      rw [← ValueMatcher.accepts_iff_meets, hnone x] at hmeets
      exact absurd hmeets (by simp)
  · intro r name edits hedits hcheck
    have hgrows : r.headers.getAll name <+: (edits.foldl Headers.edit r.headers).getAll name :=
      Headers.prefix_foldl_of_appends hedits name
    rw [HeaderExpectation.valuesMatching, HeaderExpectation.check_values_eq_ok_iff_accepts]
      at hcheck ⊢
    exact accepts_hasItems_mono (List.Subset.refl ms) hgrows.subset hcheck

/-- The order and the count of the values do not matter, nor those of the matchers; the expectation
is kept when the header is appended to in another spelling, and another header too. -/
theorem hasItems_setwise_vary :
    let ms := [ValueMatcher.contains "oo", .anyOf [.isAbsent, .startsWith "b"]]
    let r := Response.ok.withHeaderValues "Vary" ["foo", "bar"]
    let edits := [Headers.Edit.append "VARY" "", .append "Age" "7"]
    (hasItems (ms ++ ms.reverse)).accepts ["bar", "foo", "bar"] = true
      ∧ (hasItems (.allOf [.isAbsent] :: ms)).accepts ["foo", "bar"] = false
      ∧ (HeaderExpectation.valuesMatching "Vary" (hasItems ms)).check
          { r with headers := edits.foldl Headers.edit r.headers } = .ok () := by
  intro ms r edits
  have hms : (hasItems ms).accepts ["foo", "bar"] = true := by decide +kernel
  obtain ⟨-, hsame, -, -, -, hkept⟩ := hasItems_setwise ms ["foo", "bar"]
  refine ⟨?_, ?_, ?_⟩
  · rw [hsame (ms ++ ms.reverse) ["bar", "foo", "bar"] (by simp)
      (by simp [or_comm]), hms]
  · obtain ⟨-, -, -, -, hnever, -⟩ := hasItems_setwise (.allOf [.isAbsent] :: ms) ["foo", "bar"]
    exact hnever (.inr ⟨_, List.mem_cons_self, fun x => by
      simp [ValueMatcher.accepts, ValueMatcher.allAccept]⟩)
  · have hedits : ∀ e ∈ edits, e.IsAppend := by
      simp [edits, Headers.Edit.IsAppend.append]
    exact hkept r "Vary" edits hedits (by decide +kernel)

end ValuesMatcher
end HttpMock
