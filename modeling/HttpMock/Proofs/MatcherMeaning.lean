/-
# What a tree of matchers means

A tree of matchers is read as a proposition about the value, by recursion on the tree: a text that
contains the needle is some text, the needle and some text; all of some matchers is their
conjunction, any of them their disjunction.  No search and no order of the tests occur in that
reading.  `accepts_iff_meets` shows that the evaluation agrees with it, for every tree and every
value, present or absent.

A conjunction depends neither on the order of its members nor on how often one of them stands
there, and a conjunction among its members may as well be spelled out in it; the same holds of
disjunctions.  `Rearranges` relates trees that differ by such changes, made anywhere in the tree
and any number of times, and `Rearranges.meets_iff` shows that related trees mean the same.  The
two results are put together in `accepts_means`.
-/
import HttpMock.Expect.ValueMatcher

namespace HttpMock
namespace ValueMatcher

/-! ### The reading of a tree -/

/-- What a matcher says of a value that may be absent.  Of no members at all, a conjunction holds
and a disjunction does not. -/
def Meets : ValueMatcher → Option String → Prop
  | equalTo text, actual => actual = some text
  | contains needle, actual => ∃ v a b, actual = some v ∧ v = a ++ needle ++ b
  | startsWith needle, actual => ∃ v b, actual = some v ∧ v = needle ++ b
  | endsWith needle, actual => ∃ v a, actual = some v ∧ v = a ++ needle
  | isAbsent, actual => actual = none
  | isPresent, actual => ∃ v, actual = some v
  | allOf matchers, actual => ∀ m, ∀ _ : m ∈ matchers, m.Meets actual
  | anyOf matchers, actual => ∃ m, ∃ _ : m ∈ matchers, m.Meets actual
  | predicate _ holds, actual => holds actual = true

/-! ### The evaluation agrees with the reading -/

/-- A text is found in another where texts, and not only rows of characters, surround it. -/
theorem occursIn_toList_iff {needle v : String} :
    Text.occursIn needle.toList v.toList = true ↔ ∃ a b, v = a ++ needle ++ b := by
  rw [Text.occursIn_iff]
  constructor
  · rintro ⟨a, b, h⟩
    exact ⟨String.ofList a, String.ofList b, String.toList_inj.1 (by simp [h])⟩
  · rintro ⟨a, b, rfl⟩
    exact ⟨a.toList, b.toList, by simp⟩

theorem toList_prefix_iff {needle v : String} :
    needle.toList <+: v.toList ↔ ∃ b, v = needle ++ b := by
  constructor
  · rintro ⟨b, h⟩
    exact ⟨String.ofList b, String.toList_inj.1 (by simp [h])⟩
  · rintro ⟨b, rfl⟩
    exact ⟨b.toList, by simp⟩

theorem toList_suffix_iff {needle v : String} :
    needle.toList <:+ v.toList ↔ ∃ a, v = a ++ needle := by
  constructor
  · rintro ⟨a, h⟩
    exact ⟨String.ofList a, String.toList_inj.1 (by simp [h])⟩
  · rintro ⟨a, rfl⟩
    exact ⟨a.toList, by simp⟩

/-- A value is accepted exactly if it meets what the tree says.  The recursion is that of the tree:
a combination calls on the result for each of its members. -/
theorem accepts_iff_meets : ∀ (m : ValueMatcher) (actual : Option String),
    m.accepts actual = true ↔ m.Meets actual
  | equalTo text, actual => by simp [accepts, Meets]
  | contains needle, actual => by
    simp [accepts, Meets, Option.any_eq_true, occursIn_toList_iff]
  | startsWith needle, actual => by
    simp [accepts, Meets, Option.any_eq_true, toList_prefix_iff]
  | endsWith needle, actual => by
    simp [accepts, Meets, Option.any_eq_true, toList_suffix_iff]
  | isAbsent, actual => by simp [accepts, Meets]
  | isPresent, actual => by simp [accepts, Meets, Option.isSome_iff_exists]
  | allOf matchers, actual => by
    rw [accepts_allOf, List.all_eq_true, Meets]
    exact forall₂_congr fun m hm => accepts_iff_meets m actual
  | anyOf matchers, actual => by
    rw [accepts_anyOf, List.any_eq_true, Meets]
    constructor
    · rintro ⟨m, hm, h⟩
      exact ⟨m, hm, (accepts_iff_meets m actual).1 h⟩
    · rintro ⟨m, hm, h⟩
      exact ⟨m, hm, (accepts_iff_meets m actual).2 h⟩
  | predicate description holds, actual => by simp [accepts, Meets]

/-! ### Trees that mean the same -/

theorem meets_allOf {matchers : List ValueMatcher} {actual : Option String} :
    (allOf matchers).Meets actual ↔ ∀ m ∈ matchers, m.Meets actual := by
  rw [Meets]

theorem meets_anyOf {matchers : List ValueMatcher} {actual : Option String} :
    (anyOf matchers).Meets actual ↔ ∃ m ∈ matchers, m.Meets actual := by
  simp only [Meets, exists_prop]

/-- A way to combine some matchers into one. -/
inductive IsCombination : (List ValueMatcher → ValueMatcher) → Prop
  /-- All of them. -/
  | all : IsCombination allOf
  /-- Any of them. -/
  | any : IsCombination anyOf

/-- One tree comes from another by changes that leave each combination what it is: the order of
its members, how often one stands there, and whether a combination of the same kind stands among
them or its members do. -/
inductive Rearranges : ValueMatcher → ValueMatcher → Prop
  /-- The members of a combination stand in another order. -/
  | reorder {combine} (hc : IsCombination combine) {ms ns : List ValueMatcher} (h : ms.Perm ns) :
    Rearranges (combine ms) (combine ns)
  /-- A member of a combination stands there once more. -/
  | duplicate {combine} (hc : IsCombination combine) {m : ValueMatcher} {ms : List ValueMatcher}
    (h : m ∈ ms) : Rearranges (combine ms) (combine (m :: ms))
  /-- The members of a combination stand in place of the combination, in one of the same kind. -/
  | splice {combine} (hc : IsCombination combine) (before inner after : List ValueMatcher) :
    Rearranges (combine (before ++ combine inner :: after)) (combine (before ++ inner ++ after))
  /-- The change is made in a member of a combination. -/
  | inside {combine} (hc : IsCombination combine) (before : List ValueMatcher)
    {m n : ValueMatcher} (h : Rearranges m n) (after : List ValueMatcher) :
    Rearranges (combine (before ++ m :: after)) (combine (before ++ n :: after))
  /-- No change is made. -/
  | refl (m : ValueMatcher) : Rearranges m m
  /-- A change is undone. -/
  | symm {m n : ValueMatcher} (h : Rearranges m n) : Rearranges n m
  /-- One change is made after another. -/
  | trans {l m n : ValueMatcher} (h₁ : Rearranges l m) (h₂ : Rearranges m n) : Rearranges l n

/-- A combination reads its members as a set. -/
theorem IsCombination.meets_congr {combine : List ValueMatcher → ValueMatcher}
    (hc : IsCombination combine) {ms ns : List ValueMatcher} (h : ∀ m, m ∈ ms ↔ m ∈ ns)
    (actual : Option String) : (combine ms).Meets actual ↔ (combine ns).Meets actual := by
  cases hc with
  | all => simp only [meets_allOf, h]
  | any => simp only [meets_anyOf, h]

/-- A combination takes one of the same kind among its members for the members of that one. -/
theorem IsCombination.meets_splice {combine : List ValueMatcher → ValueMatcher}
    (hc : IsCombination combine) (before inner after : List ValueMatcher)
    (actual : Option String) :
    (combine (before ++ combine inner :: after)).Meets actual ↔
      (combine (before ++ inner ++ after)).Meets actual := by
  cases hc with
  | all => simp [meets_allOf, or_imp, forall_and]
  | any => simp [meets_anyOf, or_and_right, exists_or]

/-- A combination looks at nothing of a member but what the member means. -/
theorem IsCombination.meets_inside {combine : List ValueMatcher → ValueMatcher}
    (hc : IsCombination combine) (before after : List ValueMatcher) {m n : ValueMatcher}
    {actual : Option String} (h : m.Meets actual ↔ n.Meets actual) :
    (combine (before ++ m :: after)).Meets actual ↔
      (combine (before ++ n :: after)).Meets actual := by
  cases hc with
  | all => simp [meets_allOf, or_imp, forall_and, h]
  | any => simp [meets_anyOf, or_and_right, exists_or, h]

/-- Trees that are rearrangements of each other mean the same, of every value. -/
theorem Rearranges.meets_iff {m n : ValueMatcher} (h : m.Rearranges n) (actual : Option String) :
    m.Meets actual ↔ n.Meets actual := by
  induction h with
  | reorder hc h => exact hc.meets_congr (fun m => h.mem_iff) actual
  | @duplicate combine hc m ms hm =>
    refine hc.meets_congr (fun l => ⟨List.mem_cons_of_mem m, fun hl => ?_⟩) actual
    rcases List.mem_cons.1 hl with rfl | hl
    · exact hm
    · exact hl
  | splice hc before inner after => exact hc.meets_splice before inner after actual
  | inside hc before _ after ih => exact hc.meets_inside before after ih
  | refl => rfl
  | symm _ ih => exact ih.symm
  | trans _ _ ih₁ ih₂ => exact ih₁.trans ih₂

/-- A tree accepts exactly the values that meet what it says, and a rearrangement of it the same
values. -/
theorem accepts_means (m : ValueMatcher) (actual : Option String) :
    (m.accepts actual = true ↔ m.Meets actual) ∧
      ∀ n, m.Rearranges n → n.accepts actual = m.accepts actual := by
  refine ⟨accepts_iff_meets m actual, fun n h => Bool.eq_iff_iff.2 ?_⟩
  calc n.accepts actual = true ↔ n.Meets actual := accepts_iff_meets n actual
    _ ↔ m.Meets actual := (h.meets_iff actual).symm
    _ ↔ m.accepts actual = true := (accepts_iff_meets m actual).symm

/-- A conjunction inside a disjunction is changed: the conjunction among its members is spelled
out, and the last of them is put first and repeated. -/
theorem accepts_means_nested :
    let m := anyOf [isAbsent, allOf [startsWith "b", allOf [isPresent, endsWith "z"]]]
    let n := anyOf [isAbsent, allOf [endsWith "z", endsWith "z", startsWith "b", isPresent]]
    m.Rearranges n ∧ m.Meets (some "buzz") ∧ n.accepts (some "buzz") = m.accepts (some "buzz") := by
  intro m n
  have hm : m.accepts (some "buzz") = true := by decide +kernel
  have hn : m.Rearranges n := by
    refine .inside .any [isAbsent] (.trans (.splice .all [startsWith "b"] _ []) ?_) []
    refine .trans (.reorder .all ?_) (.duplicate .all (List.mem_cons_self ..))
    exact List.perm_append_singleton (endsWith "z") [startsWith "b", isPresent]
  obtain ⟨hmeets, hsame⟩ := accepts_means m (some "buzz")
  exact ⟨hn, hmeets.1 hm, hsame n hn⟩

end ValueMatcher
end HttpMock
