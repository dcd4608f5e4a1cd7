/-
# The pieces of a text

A text is cut at a separator into pieces, and the pieces are trimmed before they are looked at.
Cutting and joining are inverse to each other, and so much is in the library; this file says which
stretch of a text is a piece of it, and what trimming leaves of a stretch.

* `Text.exists_trimChars`: trimming takes blanks away at the two ends, and nothing else;
* `Text.mem_splitOn_iff`: the pieces are the stretches without a separator between two separators or
  ends of the text.
-/
import Mathlib.Tactic.Common
import HttpMock.Text.Blank

namespace HttpMock

/-! ### Trimmed texts -/

namespace Text

/-- Trimming takes blanks away at the two ends. -/
lemma exists_trimChars (s : List Char) :
    ∃ p q : List Char, s = p ++ trimChars s ++ q ∧ (∀ c ∈ p, isBlank c = true)
      ∧ ∀ c ∈ q, isBlank c = true := by
  have hq : ∀ c ∈ ((s.dropWhile isBlank).reverse.takeWhile isBlank).reverse, isBlank c = true := by
    intro c hc
    exact List.all_eq_true.1 List.all_takeWhile c (List.mem_reverse.1 hc)
  have hend : s.dropWhile isBlank
      = trimChars s ++ ((s.dropWhile isBlank).reverse.takeWhile isBlank).reverse := by
    rw [trimChars, ← List.reverse_append, List.takeWhile_append_dropWhile, List.reverse_reverse]
  refine ⟨s.takeWhile isBlank, _, ?_, List.all_eq_true.1 List.all_takeWhile, hq⟩
  rw [List.append_assoc, ← hend, List.takeWhile_append_dropWhile]

/-- Trimming keeps every character that is no blank. -/
lemma mem_trimChars {s : List Char} {c : Char} (hc : c ∈ s) (hblank : isBlank c = false) :
    c ∈ trimChars s := by
  obtain ⟨p, q, hs, hp, hq⟩ := exists_trimChars s
  rw [hs] at hc
  rcases List.mem_append.1 hc with hc | hc
  · rcases List.mem_append.1 hc with hc | hc
    · exact absurd (hp c hc) (by simp [hblank])
    · exact hc
  · exact absurd (hq c hc) (by simp [hblank])

lemma mem_of_mem_trimChars {s : List Char} {c : Char} (hc : c ∈ trimChars s) : c ∈ s := by
  obtain ⟨p, q, hs, -, -⟩ := exists_trimChars s
  rw [hs]
  exact List.mem_append_left q (List.mem_append_right p hc)

/-- Blanks around a text are trimmed away. -/
lemma trim_append_append {before after : String} (s : String)
    (hbefore : ∀ c ∈ before.toList, isBlank c = true)
    (hafter : ∀ c ∈ after.toList, isBlank c = true) : trim (before ++ s ++ after) = trim s := by
  rw [← String.toList_inj, toList_trim, toList_trim, String.toList_append, String.toList_append,
    trimChars_append_append hbefore hafter]

/-! ### The pieces of a text -/

variable {sep : Char}

lemma not_mem_of_mem_splitOn {s piece : List Char} (hpiece : piece ∈ s.splitOn sep) :
    sep ∉ piece := by
  induction s generalizing piece with
  | nil =>
    obtain rfl : piece = [] := by simpa using hpiece
    exact List.not_mem_nil
  | cons c s ih =>
    rw [List.splitOn_cons_eq_if_modifyHead] at hpiece
    split at hpiece
    · rcases List.mem_cons.1 hpiece with rfl | hpiece
      · exact List.not_mem_nil
      · exact ih hpiece
    · next hc =>
      obtain ⟨first, rest, hsplit⟩ := List.exists_cons_of_ne_nil (List.splitOn_ne_nil sep s)
      rw [hsplit] at ih hpiece
      rcases List.mem_cons.1 hpiece with rfl | hpiece
      · have hne : sep ≠ c := by
          rintro rfl
          exact hc (beq_self_eq_true _)
        simpa [hne] using ih List.mem_cons_self
      · exact ih (List.mem_cons_of_mem first hpiece)

/-- A piece of a joined text, with what stands before it and after it. -/
lemma intercalate_append_cons (sep piece : List Char) (before after : List (List Char)) :
    sep.intercalate (before ++ piece :: after)
      = before.flatMap (· ++ sep) ++ piece ++ after.flatMap (sep ++ ·) := by
  induction before with
  | nil =>
    induction after generalizing piece with
    | nil => simp
    | cons next after ih => simpa using ih next
  | cons first before ih =>
    rw [List.cons_append, List.intercalate_cons_of_ne_nil (by simp), ih]
    simp

/-- The pieces of a text are the stretches without a separator that reach from one separator to the
next, or to an end of the text. -/
lemma mem_splitOn_iff {s piece : List Char} :
    piece ∈ s.splitOn sep ↔ sep ∉ piece ∧ ∃ before after : List Char,
      s = before ++ piece ++ after ∧ (before = [] ∨ [sep] <:+ before)
        ∧ (after = [] ∨ [sep] <+: after) := by
  constructor
  · -- joining the pieces again gives the text, with the other pieces on the two sides
    intro hpiece
    refine ⟨not_mem_of_mem_splitOn hpiece, ?_⟩
    obtain ⟨before, after, hsplit⟩ := List.append_of_mem hpiece
    refine ⟨before.flatMap (· ++ [sep]), after.flatMap ([sep] ++ ·), ?_, ?_, ?_⟩
    · rw [← intercalate_append_cons, ← hsplit, List.intercalate_splitOn]
    · rcases List.eq_nil_or_concat before with rfl | ⟨init, last, rfl⟩
      · exact .inl rfl
      · exact .inr ⟨init.flatMap (· ++ [sep]) ++ last, by simp⟩
    · cases after with
      | nil => exact .inl rfl
      | cons next rest => exact .inr ⟨next ++ rest.flatMap ([sep] ++ ·), by simp⟩
  · -- the text is cut at the separators next to the stretch, whatever stands beyond them
    rintro ⟨hsep, before, after, rfl, hbefore, hafter⟩
    have hrest : piece ∈ (piece ++ after).splitOn sep := by
      rcases hafter with rfl | ⟨rest, rfl⟩
      · rw [List.append_nil, List.splitOn_eq_singleton hsep]
        exact List.mem_singleton_self piece
      · rw [List.singleton_append, List.splitOn_append_cons_self_of_not_mem hsep]
        exact List.mem_cons_self
    rcases hbefore with rfl | ⟨init, rfl⟩
    · exact hrest
    · rw [List.append_assoc, List.append_assoc, List.singleton_append,
        List.splitOn_append_cons_self]
      exact List.mem_append_right _ hrest

end Text
end HttpMock
