/-
# Entity tags in lists of tags

An entity tag is written between quotes, and may hold any visible character but the quote, a comma
among them.  A list of tags is cut at every comma, also at one that stands inside a tag.  This file
follows a tag through the list that consists of that tag alone.

The main result is `EntityTag.isListed_text_text_iff`: the tag is found in its own list if it holds
no comma, or if a star stands alone between two of its commas, and in no other case.
-/
import HttpMock.Freshness
import HttpMock.Proofs.Pieces

namespace HttpMock

/-- Whether a character may stand between the quotes of a tag. -/
def EntityTag.isTagChar (c : Char) : Bool :=
  let n := c.toNat
  n == 0x21 || (0x23 ≤ n && n ≤ 0x7E) || (0x80 ≤ n && n ≤ 0xFF)

/-- An entity tag. -/
structure EntityTag where
  /-- Whether the tag is marked as a weak one. -/
  isWeak : Bool
  /-- The characters between the quotes. -/
  characters : List Char
  /-- Only some characters may stand there. -/
  characters_ok : ∀ c ∈ characters, EntityTag.isTagChar c = true

namespace EntityTag

/-- The mark that stands before the quotes of a weak tag. -/
def mark (tag : EntityTag) : List Char := if tag.isWeak then ['W', '/'] else []

/-- The text of a tag. -/
def text (tag : EntityTag) : String :=
  String.ofList (tag.mark ++ '"' :: tag.characters ++ ['"'])

variable (tag : EntityTag)

lemma toList_text : tag.text.toList = tag.mark ++ '"' :: tag.characters ++ ['"'] :=
  String.toList_ofList

/-! ### The ends of a written tag -/

lemma head?_text : ∃ c ∈ tag.text.toList.head?, Text.isBlank c = false ∧ c ≠ '*' := by
  rw [toList_text, mark]
  split
  · exact ⟨'W', by simp, by decide⟩
  · exact ⟨'"', by simp, by decide⟩

lemma getLast?_text : '"' ∈ tag.text.toList.getLast? := by
  rw [toList_text, List.getLast?_concat]
  rfl

/-- A tag begins and ends with marks, so trimming leaves it alone. -/
lemma trimChars_text : Text.trimChars tag.text.toList = tag.text.toList := by
  apply Text.trimChars_eq_self
  · intro c hc
    obtain ⟨d, hd, hblank, -⟩ := tag.head?_text
    obtain rfl := Option.mem_unique hc hd
    exact hblank
  · intro c hc
    obtain rfl := Option.mem_unique hc tag.getLast?_text
    decide

/-! ### The mark of a weak tag -/

lemma strong_subset (s : List Char) : strong s ⊆ s := by
  rw [strong]
  cases h : Text.literal? ['W', '/'] s with
  | none => exact List.Subset.refl s
  | some r =>
    rw [Text.literal?_eq_some_iff.1 h]
    exact List.subset_append_right _ _

/-- The mark holds no comma. -/
lemma comma_mem_strong {s : List Char} (hs : ',' ∈ s) : ',' ∈ strong s := by
  rw [strong]
  cases h : Text.literal? ['W', '/'] s with
  | none => exact hs
  | some r =>
    rw [Text.literal?_eq_some_iff.1 h] at hs
    simpa using hs

/-! ### A tag in its own list -/

/-- A tag with a comma is not one of the pieces into which it is cut; so it can only be found by a
star. -/
lemma standsFor_text_iff_of_comma (hcomma : ',' ∈ tag.text.toList) {piece : List Char}
    (hpiece : ',' ∉ piece) :
    standsFor piece tag.text.toList = true ↔ Text.trimChars piece = ['*'] := by
  have hne : strong (Text.trimChars piece) ≠ strong (Text.trimChars tag.text.toList) := by
    intro heq
    rw [trimChars_text] at heq
    have hmem := comma_mem_strong hcomma
    rw [← heq] at hmem
    exact hpiece (Text.mem_of_mem_trimChars (strong_subset _ hmem))
  rw [standsFor, beq_false_of_ne hne, Bool.or_false, beq_iff_eq]

/-- A piece that is a star but for blanks does not reach to an end of a tag. -/
lemma infix_of_star {before piece after : List Char}
    (htext : tag.text.toList = before ++ piece ++ after)
    (hstar : Text.trimChars piece = ['*']) (hbefore : before = [] ∨ [','] <:+ before)
    (hafter : after = [] ∨ [','] <+: after) :
    (',' :: piece ++ [',']) <:+: tag.text.toList := by
  have hne : piece ≠ [] := by
    rintro rfl
    exact absurd hstar (by decide)
  have hchars : ∀ c ∈ piece, Text.isBlank c = false → c = '*' := by
    intro c hc hblank
    simpa [hstar] using Text.mem_trimChars hc hblank
  rcases hbefore with rfl | ⟨init, rfl⟩
  · -- the first character of the tag would be a blank or a star
    exfalso
    obtain ⟨c, hc, hblank, hstar'⟩ := tag.head?_text
    obtain ⟨d, piece, rfl⟩ := List.exists_cons_of_ne_nil hne
    rw [htext] at hc
    obtain rfl : d = c := by simpa using hc
    exact hstar' (hchars d List.mem_cons_self hblank)
  · rcases hafter with rfl | ⟨rest, rfl⟩
    · -- and so would be the last
      exfalso
      have hlast := tag.getLast?_text
      obtain ⟨piece, d, rfl⟩ := (List.eq_nil_or_concat piece).resolve_left hne
      rw [htext, List.append_nil, List.concat_eq_append, ← List.append_assoc,
        List.getLast?_concat] at hlast
      obtain rfl : d = '"' := by simpa using hlast
      exact absurd (hchars '"' (by simp) (by decide)) (by decide)
    · exact ⟨init, rest, by simp [htext]⟩

/-- A tag is found in the list that consists of that tag alone, unless a comma cuts it and no star
stands alone between two commas. -/
theorem isListed_text_text_iff :
    isListed tag.text tag.text = true ↔ ',' ∉ tag.text.toList
      ∨ ∃ piece, Text.trimChars piece = ['*'] ∧ (',' :: piece ++ [',']) <:+: tag.text.toList := by
  rw [isListed, List.any_eq_true]
  by_cases hcomma : ',' ∈ tag.text.toList
  · simp only [hcomma, not_true_eq_false, false_or]
    constructor
    · rintro ⟨piece, hpiece, hstands⟩
      obtain ⟨hfree, before, after, htext, hbefore, hafter⟩ := Text.mem_splitOn_iff.1 hpiece
      have hstar := (tag.standsFor_text_iff_of_comma hcomma hfree).1 hstands
      exact ⟨piece, hstar, tag.infix_of_star htext hstar hbefore hafter⟩
    · -- a star that stands between commas is cut out as a piece, and stands for any tag
      rintro ⟨piece, hstar, init, rest, htext⟩
      have hfree : ',' ∉ piece := by
        intro hmem
        have := Text.mem_trimChars hmem (by decide)
        simp [hstar] at this
      refine ⟨piece, Text.mem_splitOn_iff.2 ⟨hfree, init ++ [','], [','] ++ rest, ?_, ?_, ?_⟩,
        (tag.standsFor_text_iff_of_comma hcomma hfree).2 hstar⟩
      · simp [← htext]
      · exact .inr (List.suffix_append _ _)
      · exact .inr (List.prefix_append _ _)
  · simp only [hcomma, not_false_eq_true, true_or, iff_true]
    -- the tag is not cut, and is its own and only piece
    refine ⟨tag.text.toList, ?_, ?_⟩
    · rw [List.splitOn_eq_singleton hcomma]
      exact List.mem_singleton_self _
    · simp [standsFor]

end EntityTag
end HttpMock
