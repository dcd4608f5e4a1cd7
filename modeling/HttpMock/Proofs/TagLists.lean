/-
# Lists of tags

A list of tags is cut at its commas, and each piece is trimmed and compared without the mark of a
weak tag.  This file tells the list from the other side: a list is what its pieces make when commas
join them, and it names a tag if one of them is a star or the tag, up to blanks and up to one mark.
That reading mentions neither the cutting of the list nor the removal of a mark.

* `EntityTag.isListed_iff_names`: the reading agrees with the comparison, for all texts;
* `EntityTag.isListed_comma_append`: a comma parts a list into two lists;
* `EntityTag.isListed_means`: what does not count for a list and for a tag.
-/
import HttpMock.Proofs.EntityTags

namespace HttpMock

namespace EntityTag

/-! ### The reading of a list -/

/-- What is left of a text that loses one mark of a weak tag, if it begins with one. -/
inductive DropsMark : String → String → Prop
  | marked (core : String) : DropsMark ("W/" ++ core) core
  | unmarked {text : String} (h : ∀ core, text ≠ "W/" ++ core) : DropsMark text text

/-- A list names a tag: commas join it from pieces without commas, one of which is a star or the
tag. -/
def Names (list tag : String) : Prop :=
  ∃ pieces : List String, list = ",".intercalate pieces ∧ (∀ piece ∈ pieces, ',' ∉ piece.toList)
    ∧ ∃ piece ∈ pieces, Text.trim piece = "*"
      ∨ ∃ core, DropsMark (Text.trim piece) core ∧ DropsMark (Text.trim tag) core

variable {list tag piece core other : String}

lemma strong_mark_append (s : List Char) : strong ('W' :: '/' :: s) = s := by
  simp [strong, Text.literal?]

lemma strong_eq_self {s : List Char} (h : ∀ r, s ≠ 'W' :: '/' :: r) : strong s = s := by
  rw [strong]
  cases hr : Text.literal? ['W', '/'] s with
  | none => rfl
  | some r => exact absurd (Text.literal?_eq_some_iff.1 hr) (h r)

lemma toList_ne_mark_append (h : ∀ core, tag ≠ "W/" ++ core) (r : List Char) :
    tag.toList ≠ 'W' :: '/' :: r := by
  intro htag
  exact h (String.ofList r) (String.toList_inj.1 (by simp [htag]))

lemma dropsMark_iff : DropsMark tag core ↔ strong tag.toList = core.toList := by
  constructor
  · rintro (core | h)
    · rw [String.toList_append]
      exact strong_mark_append core.toList
    · exact strong_eq_self (toList_ne_mark_append h)
  · intro hcore
    by_cases hmark : ∃ core', tag = "W/" ++ core'
    · obtain ⟨core', rfl⟩ := hmark
      rw [String.toList_append] at hcore
      obtain rfl : core' = core := String.toList_inj.1 hcore
      exact .marked core'
    · have h : ∀ core', tag ≠ "W/" ++ core' := not_exists.1 hmark
      rw [strong_eq_self (toList_ne_mark_append h)] at hcore
      obtain rfl : tag = core := String.toList_inj.1 hcore
      exact .unmarked h

/-- A piece stands for a tag if it is a star, or if both come to the same when each drops its
mark. -/
lemma standsFor_iff : standsFor piece.toList tag.toList = true ↔ Text.trim piece = "*"
    ∨ ∃ core, DropsMark (Text.trim piece) core ∧ DropsMark (Text.trim tag) core := by
  have hstar : Text.trimChars piece.toList = ['*'] ↔ Text.trim piece = "*" := by
    rw [← String.toList_inj, Text.toList_trim]
    rfl
  have hcore : strong (Text.trimChars piece.toList) = strong (Text.trimChars tag.toList)
      ↔ ∃ core, DropsMark (Text.trim piece) core ∧ DropsMark (Text.trim tag) core := by
    simp only [dropsMark_iff, Text.toList_trim]
    constructor
    · intro hsame
      exact ⟨String.ofList (strong (Text.trimChars tag.toList)), by simp [hsame], by simp⟩
    · rintro ⟨core, hpiece, htag⟩
      rw [hpiece, htag]
  rw [standsFor, Bool.or_eq_true, beq_iff_eq, beq_iff_eq, hstar, hcore]

/-- The pieces into which a list is cut are the ones that commas join. -/
lemma splitOn_intercalate {pieces : List String} (hne : pieces ≠ [])
    (hfree : ∀ piece ∈ pieces, ',' ∉ piece.toList) :
    (",".intercalate pieces).toList.splitOn ',' = pieces.map String.toList := by
  rw [String.toList_intercalate]
  exact List.splitOn_intercalate ',' (by simpa using hfree) (by simpa using hne)

/-- **A list names a tag** exactly if the comparison finds it. -/
theorem isListed_iff_names : isListed list tag = true ↔ Names list tag := by
  rw [isListed, List.any_eq_true]
  constructor
  · -- the list is joined from the pieces into which it is cut
    rintro ⟨piece, hpiece, hstands⟩
    refine ⟨(list.toList.splitOn ',').map String.ofList, ?_, ?_, String.ofList piece,
      List.mem_map_of_mem hpiece, ?_⟩
    · rw [← String.toList_inj, String.toList_intercalate, List.map_map]
      have hid : String.toList ∘ String.ofList = id := by
        funext s
        simp
      rw [hid, List.map_id]
      exact (List.intercalate_splitOn ',').symm
    · intro piece hpiece
      obtain ⟨s, hs, rfl⟩ := List.mem_map.1 hpiece
      rw [String.toList_ofList]
      exact Text.not_mem_of_mem_splitOn hs
    · rw [← standsFor_iff, String.toList_ofList]
      exact hstands
  · rintro ⟨pieces, rfl, hfree, piece, hpiece, hstands⟩
    refine ⟨piece.toList, ?_, standsFor_iff.2 hstands⟩
    rw [splitOn_intercalate (List.ne_nil_of_mem hpiece) hfree]
    exact List.mem_map_of_mem hpiece

/-! ### Lists of several pieces -/

/-- A comma parts a list into two lists, each of which is looked through. -/
lemma isListed_comma_append (a b tag : String) :
    isListed (a ++ "," ++ b) tag = (isListed a tag || isListed b tag) := by
  have hsep : ",".toList = [','] := rfl
  rw [isListed, String.toList_append, String.toList_append, hsep, List.append_assoc,
    List.singleton_append, List.splitOn_append_cons_self, List.any_append]
  rfl

/-- Where a separator parts lists, lists that it joins name what one of them names. -/
lemma isListed_intercalate_of {sep : String}
    (hsep : ∀ a b, isListed (a ++ sep ++ b) tag = (isListed a tag || isListed b tag))
    {lists : List String} (hne : lists ≠ []) :
    isListed (sep.intercalate lists) tag = lists.any (isListed · tag) := by
  induction lists with
  | nil => exact absurd rfl hne
  | cons list lists ih =>
    cases lists with
    | nil => simp
    | cons next lists =>
      rw [String.intercalate_cons_cons, hsep, ih (List.cons_ne_nil _ _)]
      simp only [List.any_cons]

lemma isListed_comma_intercalate {lists : List String} (hne : lists ≠ []) (tag : String) :
    isListed (",".intercalate lists) tag = lists.any (isListed · tag) :=
  isListed_intercalate_of (fun a b => isListed_comma_append a b tag) hne

/-- Where one list stands for another, it may be put in the place of it among others. -/
lemma isListed_intercalate_congr (hsame : isListed other tag = isListed piece tag)
    (before after : List String) :
    isListed (",".intercalate (before ++ other :: after)) tag
      = isListed (",".intercalate (before ++ piece :: after)) tag := by
  rw [isListed_comma_intercalate (by simp), isListed_comma_intercalate (by simp)]
  simp only [List.any_append, List.any_cons, hsame]

/-- More lists name more. -/
lemma isListed_intercalate_mono {lists others : List String} (hne : lists ≠ [])
    (hsub : lists ⊆ others) (hlisted : isListed (",".intercalate lists) tag = true) :
    isListed (",".intercalate others) tag = true := by
  rw [isListed_comma_intercalate hne, List.any_eq_true] at hlisted
  obtain ⟨list, hlist, hnamed⟩ := hlisted
  rw [isListed_comma_intercalate (List.ne_nil_of_mem (hsub hlist)), List.any_eq_true]
  exact ⟨list, hsub hlist, hnamed⟩

lemma isListed_intercalate_perm {lists others : List String} (hperm : lists.Perm others) :
    isListed (",".intercalate lists) tag = isListed (",".intercalate others) tag := by
  by_cases hne : lists = []
  · subst hne
    rw [List.nil_perm.1 hperm]
  · have hne' : others ≠ [] := by
      rintro rfl
      exact hne (List.perm_nil.1 hperm)
    rw [Bool.eq_iff_iff]
    constructor
    · exact isListed_intercalate_mono hne hperm.subset
    · exact isListed_intercalate_mono hne' hperm.symm.subset

/-! ### Spellings of a piece and of a tag -/

/-- A text is another with blanks before it and after it. -/
def AddsBlanks (text other : String) : Prop :=
  ∃ before after : String, other = before ++ text ++ after
    ∧ (∀ c ∈ before.toList, Text.isBlank c = true) ∧ ∀ c ∈ after.toList, Text.isBlank c = true

/-- A text is another, trimmed one with a mark before it, where the other has none. -/
structure AddsMark (text other : String) : Prop where
  eq : other = "W/" ++ text
  trimmed : Text.trim text = text
  unmarked : ∀ core, text ≠ "W/" ++ core

lemma AddsBlanks.trim_eq (h : AddsBlanks tag other) : Text.trim other = Text.trim tag := by
  obtain ⟨before, after, rfl, hbefore, hafter⟩ := h
  exact Text.trim_append_append tag hbefore hafter

/-- Neither end of a mark is blank, so a trimmed text stays trimmed behind it. -/
lemma trimChars_mark_append {s : List Char} (hs : Text.trimChars s = s) :
    Text.trimChars ('W' :: '/' :: s) = 'W' :: '/' :: s := by
  apply Text.trimChars_eq_self
  · intro c hc
    obtain rfl : 'W' = c := by simpa using hc
    decide
  · intro c hc
    cases s with
    | nil =>
      obtain rfl : '/' = c := by simpa using hc
      decide
    | cons d s =>
      have hlast : c ∈ (Text.trimChars (d :: s)).getLast? := by
        rw [hs]
        simpa using hc
      exact Text.getLast?_trimChars hlast

namespace AddsMark

lemma trim_eq (h : AddsMark tag other) : Text.trim other = "W/" ++ tag := by
  have htag : Text.trimChars tag.toList = tag.toList := by
    rw [← Text.toList_trim, h.trimmed]
  rw [h.eq, ← String.toList_inj, Text.toList_trim, String.toList_append]
  exact trimChars_mark_append htag

/-- The mark that is added is the one that is dropped. -/
lemma dropsMark_iff (h : AddsMark tag other) :
    DropsMark (Text.trim other) core ↔ DropsMark (Text.trim tag) core := by
  rw [h.trim_eq, h.trimmed, EntityTag.dropsMark_iff, EntityTag.dropsMark_iff, String.toList_append,
    strong_eq_self (toList_ne_mark_append h.unmarked)]
  exact Eq.congr_left (strong_mark_append tag.toList)

end AddsMark

lemma isListed_of_comma_not_mem (hfree : ',' ∉ piece.toList) :
    isListed piece tag = standsFor piece.toList tag.toList := by
  rw [isListed, List.splitOn_eq_singleton hfree, List.any_cons, List.any_nil, Bool.or_false]

/-- No blank is a comma. -/
lemma AddsBlanks.comma_not_mem (h : AddsBlanks piece other) (hfree : ',' ∉ piece.toList) :
    ',' ∉ other.toList := by
  obtain ⟨before, after, rfl, hbefore, hafter⟩ := h
  have hblank : Text.isBlank ',' = false := by decide
  simp only [String.toList_append, List.mem_append, not_or]
  refine ⟨⟨fun hmem => ?_, hfree⟩, fun hmem => ?_⟩
  · exact absurd (hbefore _ hmem) (by simp [hblank])
  · exact absurd (hafter _ hmem) (by simp [hblank])

lemma AddsMark.comma_not_mem (h : AddsMark piece other) (hfree : ',' ∉ piece.toList) :
    ',' ∉ other.toList := by
  rw [h.eq, String.toList_append, List.mem_append, not_or]
  exact ⟨by decide, hfree⟩

/-- Blanks around a piece and a mark before it go unnoticed, unless the mark stands before a
star. -/
lemma isListed_piece_congr (hfree : ',' ∉ piece.toList)
    (h : AddsBlanks piece other ∨ AddsMark piece other ∧ piece ≠ "*") :
    isListed other tag = isListed piece tag := by
  rcases h with h | ⟨h, hstar⟩
  · rw [isListed_of_comma_not_mem hfree, isListed_of_comma_not_mem (h.comma_not_mem hfree),
      Bool.eq_iff_iff, standsFor_iff, standsFor_iff, h.trim_eq]
  · have hother : Text.trim other ≠ "*" := by
      rw [h.trim_eq, ← String.toList_inj.ne]
      simp
    rw [isListed_of_comma_not_mem hfree, isListed_of_comma_not_mem (h.comma_not_mem hfree),
      Bool.eq_iff_iff, standsFor_iff, standsFor_iff]
    simp only [hother, h.trimmed, hstar, h.dropsMark_iff]

/-- Blanks around a tag and a mark before it go unnoticed. -/
lemma isListed_tag_congr (h : AddsBlanks tag other ∨ AddsMark tag other) :
    isListed list other = isListed list tag := by
  have hdrops (core : String) :
      DropsMark (Text.trim other) core ↔ DropsMark (Text.trim tag) core := by
    rcases h with h | h
    · rw [h.trim_eq]
    · exact h.dropsMark_iff
  rw [Bool.eq_iff_iff, isListed_iff_names, isListed_iff_names]
  simp only [Names, hdrops]

/-- **A list of tags is a set of pieces**, which commas join, and it names a tag that is one of
them.  So a comma makes two lists one that names what either of them names; pieces that are added
take nothing away, and their order does not matter; and neither blanks around the tag or around a
piece count, nor a mark before them where there is none, except before a star. -/
theorem isListed_means (list tag : String) :
    (isListed list tag = true ↔ Names list tag)
      ∧ (∀ more, isListed (list ++ "," ++ more) tag = (isListed list tag || isListed more tag))
      ∧ (∀ pieces others, pieces ≠ [] → pieces ⊆ others →
        isListed (",".intercalate pieces) tag = true →
        isListed (",".intercalate others) tag = true)
      ∧ (∀ pieces others : List String, pieces.Perm others →
        isListed (",".intercalate pieces) tag = isListed (",".intercalate others) tag)
      ∧ (∀ other, AddsBlanks tag other ∨ AddsMark tag other →
        isListed list other = isListed list tag)
      ∧ ∀ before piece other after, ',' ∉ piece.toList →
        AddsBlanks piece other ∨ AddsMark piece other ∧ piece ≠ "*" →
        isListed (",".intercalate (before ++ other :: after)) tag
          = isListed (",".intercalate (before ++ piece :: after)) tag := by
  refine ⟨isListed_iff_names, fun more => isListed_comma_append list more tag, ?_, ?_, ?_, ?_⟩
  · intro pieces others hne hsub
    exact isListed_intercalate_mono hne hsub
  · intro pieces others hperm
    exact isListed_intercalate_perm hperm
  · intro other hspelling
    exact isListed_tag_congr hspelling
  · intro before piece other after hfree hspelling
    exact isListed_intercalate_congr (isListed_piece_congr hfree hspelling) before after

/-- A tag is found among others in any order, as a weak tag and with a blank before it; but a star
with a mark before it is no star. -/
theorem isListed_means_weak :
    let join := ",".intercalate
    isListed (join ["\"v1\"", "\"v0\"", "W/*"]) "\"v1\"" = true
      ∧ isListed (join ["\"v0\"", "W/\"v1\""]) "\"v1\"" = true
      ∧ isListed (join ["\"v0\"", "\"v1\""]) " \"v1\"" = true
      ∧ isListed (join ["\"v0\"", "*"]) "\"v1\"" = true
      ∧ isListed (join ["\"v0\"", "W/*"]) "\"v1\"" = false := by
  intro join
  have hlisted : isListed (join ["\"v0\"", "\"v1\""]) "\"v1\"" = true := by decide +kernel
  have hmark : AddsMark "\"v1\"" "W/\"v1\"" := by
    refine ⟨rfl, by decide +kernel, fun core hcore => ?_⟩
    rw [← String.toList_inj, String.toList_append] at hcore
    exact absurd hcore (by simp)
  have hblank : AddsBlanks "\"v1\"" " \"v1\"" :=
    ⟨" ", "", by decide +kernel, by simp; decide, by simp⟩
  obtain ⟨-, -, hmore, horder, htag, hpiece⟩ :=
    isListed_means (join ["\"v0\"", "\"v1\""]) "\"v1\""
  refine ⟨?_, ?_, ?_, by decide +kernel, by decide +kernel⟩
  · have hswapped : isListed (join ["\"v1\"", "\"v0\""]) "\"v1\"" = true := by
      rw [← hlisted]
      exact horder _ _ (.swap _ _ [])
    exact hmore _ _ (by simp) (by simp) hswapped
  · rw [← hlisted]
    exact hpiece ["\"v0\""] "\"v1\"" "W/\"v1\"" [] (by decide) (.inr ⟨hmark, by decide⟩)
  · rw [htag _ (.inl hblank), hlisted]

end EntityTag
end HttpMock
