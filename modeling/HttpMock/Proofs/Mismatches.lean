/-
# What a mismatch shows

A failure that finds a header to be wrong tells two texts: what was expected, and what is there.
Neither is quoted.  A literal stands for itself, a header that is not there is told by the word
`null`, and a list by its values with a comma and a space between them.  A header can be expected to
hold that word, and a value can hold such a comma; so the two texts can be the same although the
expectation fails.  This file says exactly when they are.

What can be made out of the text of a list are its items, the stretches between the commas that a
space follows.  Two lists are told alike if and only if they have the same items, however the items
are put together to values.  A list without values is told as one that holds the empty text.

* `Text.items_intercalate`: the items of a list of values are those of its values, one after
  another;
* `describeValues_eq_iff`: two lists are told alike if and only if they have the same items;
* `HeaderExpectation.check_literal_shows`: when a mismatch with a literal cannot be seen.
-/
import HttpMock.Proofs.FailureKinds

namespace HttpMock

/-! ### The items of a text -/

namespace Text

/-- The stretches of a text between the commas that a space follows. -/
def items : List Char → List (List Char)
  | [] => [[]]
  | ',' :: ' ' :: s => [] :: items s
  | c :: s => (items s).modifyHead (c :: ·)

lemma items_ne_nil (s : List Char) : items s ≠ [] := by
  fun_induction items s with
  | case1 => exact List.cons_ne_nil _ _
  | case2 s ih => exact List.cons_ne_nil _ _
  | case3 c s hsep ih => simpa using ih

/-- A comma with a space after it parts the items before it from those after it. -/
lemma items_append_separator (s t : List Char) :
    items (s ++ ',' :: ' ' :: t) = items s ++ items t := by
  fun_induction items s with
  | case1 => rfl
  | case2 s ih => rw [List.cons_append, List.cons_append, items, ih, List.cons_append]
  | case3 c s hsep ih =>
    obtain ⟨first, rest, hitems⟩ := List.exists_cons_of_ne_nil (items_ne_nil s)
    rw [List.cons_append, items, ih, hitems]
    · rfl
    · -- the comma that parts is not followed by itself
      rintro u rfl htail
      cases s with
      | nil => exact absurd (List.cons.inj htail).1 (by decide)
      | cons d s =>
        obtain ⟨rfl, -⟩ := List.cons.inj htail
        exact hsep s rfl rfl

/-- A text is its items with commas and spaces between them. -/
lemma intercalate_items (s : List Char) : [',', ' '].intercalate (items s) = s := by
  fun_induction items s with
  | case1 => rfl
  | case2 s ih => rw [List.intercalate_cons_of_ne_nil (items_ne_nil s), ih]; rfl
  | case3 c s hsep ih =>
    obtain ⟨first, rest, hitems⟩ := List.exists_cons_of_ne_nil (items_ne_nil s)
    rw [hitems] at ih ⊢
    cases rest with
    | nil => simpa using ih
    | cons second rest => simpa [List.intercalate_cons_cons] using ih

lemma items_inj {s t : List Char} : items s = items t ↔ s = t := by
  constructor
  · intro hsame
    rw [← intercalate_items s, hsame, intercalate_items t]
  · rintro rfl
    rfl

/-- The items of some values, one after another; where there is no value, there is an empty item. -/
def itemsOfAll (values : List String) : List (List Char) :=
  if values = [] then [[]] else values.flatMap fun v => items v.toList

/-- The items of a list of values are those of its values, one after another. -/
theorem items_intercalate (values : List String) :
    items (", ".intercalate values).toList = itemsOfAll values := by
  induction values with
  | nil => rfl
  | cons v values ih =>
    cases values with
    | nil => simp [itemsOfAll]
    | cons w values =>
      have hall : itemsOfAll (v :: w :: values)
          = items v.toList ++ itemsOfAll (w :: values) := by
        simp [itemsOfAll]
      have hsep : ", ".toList = [',', ' '] := rfl
      rw [String.intercalate_cons_cons, String.toList_append, String.toList_append, hsep,
        List.append_assoc, hall, ← ih]
      exact items_append_separator _ _

end Text

/-- Two lists of values are told alike if and only if they have the same items. -/
theorem describeValues_eq_iff {values others : List String} :
    describeValues values = describeValues others
      ↔ Text.itemsOfAll values = Text.itemsOfAll others := by
  rw [describeValues, describeValues, String.append_left_inj, String.append_right_inj,
    ← Text.items_intercalate, ← Text.items_intercalate, Text.items_inj, String.toList_inj]

namespace HeaderExpectation

/-! ### Literals -/

/-- An expectation that spells out the first value of a header, or all its values. -/
inductive IsLiteral : HeaderExpectation → Prop
  | value (name text : String) : IsLiteral (.value name (.value text))
  | values (name : String) (list : List String) : IsLiteral (.values name (.values list))

/-- What is expected is told just as what is there: the word for an absent header is expected of a
header that is absent, or the two lists have the same items. -/
inductive Hides (h : Headers) : HeaderExpectation → Prop
  | absent {name : String} (habsent : h.contains name = false) :
    Hides h (.value name (.value "null"))
  | items {name : String} {list : List String}
      (hitems : Text.itemsOfAll list = Text.itemsOfAll (h.getAll name)) :
    Hides h (.values name (.values list))

variable {h : Headers} {name : String}

lemma hides_value_of_absent (habsent : h.contains name = false) {text : String} :
    Hides h (.value name (.value text)) ↔ text = "null" := by
  constructor
  · intro hhides
    cases hhides
    rfl
  · rintro rfl
    exact .absent habsent

/-- A first value is always told as it is. -/
lemma not_hides_value {first text : String} (hfirst : first ∈ (h.getAll name).head?) :
    ¬ Hides h (.value name (.value text)) := by
  intro hhides
  cases hhides with
  | absent habsent =>
    rw [Headers.contains_of_mem_head? hfirst] at habsent
    exact absurd habsent (by decide)

lemma hides_values_iff {list : List String} :
    Hides h (.values name (.values list))
      ↔ Text.itemsOfAll list = Text.itemsOfAll (h.getAll name) := by
  constructor
  · intro hhides
    cases hhides with
    | items hitems => exact hitems
  · exact .items

/-- **A mismatch with a literal shows in the failure**, but for two cases: what is expected and what
is there are told by the same text if the word for an absent header is expected of an absent header,
or if two lists have the same items, and in no other case. -/
theorem check_literal_shows (r : Response) (hreach : r.headers.IsReachable) (e : HeaderExpectation)
    (hliteral : e.IsLiteral) (failure : Failure) (hfail : e.check r = .error failure) :
    ∃ expected actual, failure = .headerMismatch e.name expected actual
      ∧ (expected = actual ↔ e.Hides r.headers) := by
  have hfails := (check_eq_error_iff hreach.isWellFormed e).1 hfail
  cases hliteral with
  | value name text =>
    cases hfails with
    | missing hneeds => cases hneeds
    | noValue habsent => exact ⟨_, _, rfl, (hides_value_of_absent habsent).symm⟩
    | otherValue hfirst hwrong =>
      refine ⟨_, _, rfl, iff_of_false ?_ (not_hides_value hfirst)⟩
      rintro rfl
      simp [Expected.accepts, Expected.describe] at hwrong
  | values name list =>
    cases hfails with
    | missing hneeds => cases hneeds
    | otherValues => exact ⟨_, _, rfl, describeValues_eq_iff.trans hides_values_iff.symm⟩

/-- A list in another order is told by another text. -/
theorem check_literal_shows_order :
    ∃ expected actual, (values "Vary" (.values ["b", "a"])).check
        (Response.ok.withHeaderValues "Vary" ["a", "b"])
          = .error (.headerMismatch "Vary" expected actual)
      ∧ expected ≠ actual := by
  have hvalues : (Response.ok.withHeaderValues "Vary" ["a", "b"]).headers.getAll "Vary"
      = ["a", "b"] := by decide +kernel
  have hfail : (values "Vary" (.values ["b", "a"])).check
      (Response.ok.withHeaderValues "Vary" ["a", "b"])
        = .error (.headerMismatch "Vary" "[b, a]" "[a, b]") := by
    rw [check]
    simp only [hvalues]
    rfl
  have hreach : (Response.ok.withHeaderValues "Vary" ["a", "b"]).headers.IsReachable :=
    Headers.IsReachable.empty.appendAll "Vary" ["a", "b"]
  obtain ⟨expected, actual, hfailure, hshows⟩ :=
    check_literal_shows _ hreach _ (.values "Vary" ["b", "a"]) _ hfail
  refine ⟨expected, actual, hfail.trans (congrArg Except.error hfailure), ?_⟩
  rw [Ne, hshows, hides_values_iff, hvalues]
  decide

/-- **A mismatch with a literal does not always show**: a header that is not there is told by the
word that was expected of it, a value with a comma inside as the two values that were expected, and
no value at all as the empty one. -/
theorem mismatch_hidden :
    (value "X-Flag" (.value "null")).check .ok = .error (.headerMismatch "X-Flag" "null" "null")
      ∧ (values "Vary" (.values ["a", "b"])).check (Response.ok.withHeader "Vary" "a, b")
        = .error (.headerMismatch "Vary" "[a, b]" "[a, b]")
      ∧ (values "X-Flag" (.values [""])).check .ok = .error (.headerMismatch "X-Flag" "[]" "[]")
      ∧ ¬ ∀ (r : Response) (e : HeaderExpectation) (name expected actual : String),
        r.headers.IsReachable → e.IsLiteral →
        e.check r = .error (.headerMismatch name expected actual) → expected ≠ actual := by
  have hflag : (value "X-Flag" (.value "null")).check .ok
      = .error (.headerMismatch "X-Flag" "null" "null") := rfl
  refine ⟨hflag, ?_, rfl, ?_⟩
  · have hvalues : (Response.ok.withHeader "Vary" "a, b").headers.getAll "Vary" = ["a, b"] := by
      decide +kernel
    rw [check]
    simp only [hvalues]
    rfl
  · intro hshows
    exact hshows .ok _ _ _ _ Headers.IsReachable.empty (.value "X-Flag" "null") hflag rfl

end HeaderExpectation
end HttpMock
