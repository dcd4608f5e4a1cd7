/-
# Searching a text

A text occurs in another if it stands somewhere between a text before it and a text after it; the
empty text occurs everywhere.  `occursIn_iff` says so of the search.
-/

namespace HttpMock
namespace Text

/-- Whether a text has another somewhere inside it. -/
def occursIn (needle : List Char) : List Char → Bool
  | [] => needle.isEmpty
  | c :: s => needle.isPrefixOf (c :: s) || occursIn needle s

/-- A text is found exactly where it stands between two others. -/
theorem occursIn_iff {needle s : List Char} :
    occursIn needle s = true ↔ ∃ a b, s = a ++ needle ++ b := by
  induction s with
  | nil =>
    constructor
    · intro h
      have : needle = [] := by simpa [occursIn] using h
      exact ⟨[], [], by simp [this]⟩
    · rintro ⟨a, b, h⟩
      have : needle = [] := by
        have := congrArg List.length h
        simp at this
        exact List.length_eq_zero_iff.1 (by omega)
      simp [occursIn, this]
  | cons c s ih =>
    simp only [occursIn, Bool.or_eq_true, List.isPrefixOf_iff_prefix, ih]
    constructor
    · rintro (⟨b, hb⟩ | ⟨a, b, rfl⟩)
      · exact ⟨[], b, by simp [hb]⟩
      · exact ⟨c :: a, b, rfl⟩
    · rintro ⟨a, b, h⟩
      cases a with
      | nil => exact .inl ⟨b, h.symm⟩
      | cons d a =>
        simp only [List.cons_append, List.cons.injEq] at h
        exact .inr ⟨a, b, h.2⟩

end Text
end HttpMock
