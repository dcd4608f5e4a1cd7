/-
# What is rendered can be read

A response is rendered as its status line and one line for each value of its headers.  A header with
several values has several lines with its name, so the text does not say outright which lines make
up a header.  But no header is without a value, and no two headers have the same name; so lines next
to each other belong to one header exactly if they have the same name.  Hence the text determines
the status and the headers, unless a name holds a colon, or something in them ends a line.

* `Text.lines_flatMap`: lines that are written one after another are read again;
* `Headers.gather_flatMap`: values beside their names are gathered under them again;
* `Headers.IsWellFormed.isShownBy_render`: a rendered map has one line for each value, and shows the
  whole map;
* `Response.render_tells`: responses that are rendered alike have the same status and the same
  headers.
-/
import Mathlib.Data.List.SplitBy
import HttpMock.Proofs.HeaderInvariant

namespace HttpMock

/-! ### Lines -/

namespace Text

/-- The lines of a text, without the carriage return and the line feed that end each of them.  What
stands after the last line is left out. -/
def lines : List Char → List (List Char)
  | [] => []
  | '\r' :: '\n' :: s => [] :: lines s
  | c :: s => (lines s).modifyHead (c :: ·)

lemma lines_append {line : List Char} (hline : '\r' ∉ line) (s : List Char) :
    lines (line ++ '\r' :: '\n' :: s) = line :: lines s := by
  induction line with
  | nil => rfl
  | cons c line ih =>
    have hc : c ≠ '\r' := fun h => hline (h ▸ List.mem_cons_self)
    rw [List.cons_append, lines, ih fun h => hline (List.mem_cons_of_mem c h), List.modifyHead_cons]
    rintro t rfl -
    exact hc rfl

/-- Lines that are written one after another are read again. -/
lemma lines_flatMap {rows : List (List Char)} (hrows : ∀ row ∈ rows, '\r' ∉ row) :
    lines (rows.flatMap (· ++ ['\r', '\n'])) = rows := by
  induction rows with
  | nil => rfl
  | cons row rows ih =>
    have hrow : '\r' ∉ row := hrows row List.mem_cons_self
    rw [List.flatMap_cons, List.append_assoc, List.cons_append, List.singleton_append,
      lines_append hrow, ih fun other hother => hrows other (List.mem_cons_of_mem row hother)]

end Text

namespace Headers

/-! ### Values beside their names -/

/-- The values of a map in order, each with the kept spelling of its name. -/
def entries (h : Headers) : List (String × String) :=
  h.toList.flatMap fun (name, values) => values.map fun value => (name, value)

/-- The line of a value. -/
def line (entry : String × String) : List Char := (entry.1 ++ ": " ++ entry.2).toList

/-- The value that a line shows, with its name, which ends at the first colon. -/
def ofLine (line : List Char) : String × String :=
  (String.ofList (line.takeWhile (· != ':')), String.ofList ((line.dropWhile (· != ':')).drop 2))

/-- Gathers values next to each other that have the same name. -/
def gather (entries : List (String × String)) : List (String × List String) :=
  (entries.splitBy fun a b => a.1 == b.1).filterMap fun group =>
    group.head?.map fun first => (first.1, group.map Prod.snd)

/-- Nothing in a map looks like the end of a name or of a line: no name holds a colon, and neither
names nor values hold a carriage return.  A line feed alone ends no line. -/
structure IsPlain (h : Headers) : Prop where
  name_colon : ∀ f ∈ h.fields, ':' ∉ f.name.toList
  name_return : ∀ f ∈ h.fields, '\r' ∉ f.name.toList
  value_return : ∀ f ∈ h.fields, ∀ v ∈ f.values, '\r' ∉ v.toList

instance (h : Headers) : Decidable h.IsPlain :=
  decidable_of_iff ((∀ f ∈ h.fields, ':' ∉ f.name.toList)
      ∧ (∀ f ∈ h.fields, '\r' ∉ f.name.toList)
      ∧ ∀ f ∈ h.fields, ∀ v ∈ f.values, '\r' ∉ v.toList)
    ⟨fun ⟨hcolon, hname, hvalue⟩ => ⟨hcolon, hname, hvalue⟩,
      fun h => ⟨h.name_colon, h.name_return, h.value_return⟩⟩

/-- A text shows a map: each value on a line of its own. -/
structure IsShownBy (h : Headers) (text : List Char) : Prop where
  /-- The text is made up of lines. -/
  whole : (Text.lines text).flatMap (· ++ ['\r', '\n']) = text
  /-- They are those of the values, in order. -/
  lines : Text.lines text = h.entries.map line
  /-- There are as many as there are values. -/
  length : (Text.lines text).length = (h.toList.flatMap Prod.snd).length
  /-- They tell all headers, with their values in their order. -/
  gathered : gather ((Text.lines text).map ofLine) = h.toList

variable {h : Headers}

lemma mem_entries {entry : String × String} :
    entry ∈ h.entries ↔ ∃ f ∈ h.fields, f.name = entry.1 ∧ entry.2 ∈ f.values := by
  obtain ⟨name, value⟩ := entry
  simp only [entries, toList, List.mem_flatMap, List.mem_map]
  constructor
  · rintro ⟨_, ⟨f, hf, rfl⟩, v, hv, heq⟩
    obtain ⟨rfl, rfl⟩ := Prod.mk.inj heq
    exact ⟨f, hf, rfl, hv⟩
  · rintro ⟨f, hf, rfl, hv⟩
    exact ⟨_, ⟨f, hf, rfl⟩, value, hv, rfl⟩

lemma toList_render (h : Headers) :
    h.render.toList = (h.entries.map line).flatMap (· ++ ['\r', '\n']) := by
  have hend : "\r\n".toList = ['\r', '\n'] := rfl
  rw [render, entries, String.toList_join, List.map_flatMap, List.flatMap_assoc, List.flatMap_assoc]
  refine List.flatMap_congr ?_
  rintro ⟨name, values⟩ -
  simp [line, List.flatMap_map, hend]

lemma ofLine_line {entry : String × String} (hname : ':' ∉ entry.1.toList) :
    ofLine (line entry) = entry := by
  have hbefore : ∀ c ∈ entry.1.toList, (c != ':') = true := by
    intro c hc
    rw [bne_iff_ne]
    rintro rfl
    exact hname hc
  have hline : line entry = entry.1.toList ++ ':' :: ' ' :: entry.2.toList := by
    rw [line, String.toList_append, String.toList_append, List.append_assoc]
    rfl
  rw [ofLine, hline, List.takeWhile_append_of_pos hbefore, List.dropWhile_append_of_pos hbefore]
  simp

/-- Values beside their names fall into groups again, one for each name, if every name has a value
and no two names are the same. -/
lemma splitBy_flatMap {list : List (String × List String)} (hnodup : (list.map Prod.fst).Nodup)
    (hvalues : ∀ entry ∈ list, entry.2 ≠ []) :
    (list.flatMap fun entry => entry.2.map (entry.1, ·)).splitBy (fun a b => a.1 == b.1)
      = list.map fun entry => entry.2.map (entry.1, ·) := by
  rw [List.flatMap_def]
  apply List.splitBy_flatten
  · intro hnil
    obtain ⟨entry, hentry, hempty⟩ := List.mem_map.1 hnil
    exact hvalues entry hentry (List.map_eq_nil_iff.1 hempty)
  · intro group hgroup
    obtain ⟨entry, -, rfl⟩ := List.mem_map.1 hgroup
    rw [List.isChain_map]
    exact (List.pairwise_of_forall fun _ _ => beq_self_eq_true entry.1).isChain
  · rw [List.isChain_map]
    rw [List.nodup_iff_pairwise_ne, List.pairwise_map] at hnodup
    refine (hnodup.imp_of_mem ?_).isChain
    intro entry next hentry hnext hne
    refine ⟨by simpa using hvalues entry hentry, by simpa using hvalues next hnext, ?_⟩
    rw [List.getLast_map, List.head_map]
    exact beq_false_of_ne hne

/-- Values beside their names are gathered under them again. -/
lemma gather_flatMap {list : List (String × List String)} (hnodup : (list.map Prod.fst).Nodup)
    (hvalues : ∀ entry ∈ list, entry.2 ≠ []) :
    gather (list.flatMap fun entry => entry.2.map (entry.1, ·)) = list := by
  rw [gather, splitBy_flatMap hnodup hvalues, List.filterMap_map]
  conv_rhs => rw [← List.filterMap_some (l := list)]
  refine List.filterMap_congr ?_
  rintro ⟨name, values⟩ hentry
  obtain ⟨value, rest, rfl⟩ := List.exists_cons_of_ne_nil (hvalues _ hentry)
  simp [Function.comp_def]

/-! ### The rendered map -/

namespace IsWellFormed

lemma nodup_names (hwf : h.IsWellFormed) : (h.toList.map Prod.fst).Nodup := by
  have hkeys : ((h.fields.map Field.name).map key).Nodup := by
    rw [List.map_map]
    exact hwf.nodup
  rw [map_fst_toList]
  exact hkeys.of_map

lemma gather_entries (hwf : h.IsWellFormed) : gather h.entries = h.toList := by
  refine gather_flatMap hwf.nodup_names ?_
  intro entry hentry
  obtain ⟨f, hf, rfl⟩ := List.mem_map.1 hentry
  exact hwf.values_ne_nil f hf

/-- A rendered map has one line for each value, and shows the whole map. -/
theorem isShownBy_render (hwf : h.IsWellFormed) (hplain : h.IsPlain) :
    h.IsShownBy h.render.toList := by
  have hlines : Text.lines h.render.toList = h.entries.map line := by
    rw [toList_render]
    apply Text.lines_flatMap
    intro row hrow
    obtain ⟨entry, hentry, rfl⟩ := List.mem_map.1 hrow
    obtain ⟨f, hf, hname, hvalue⟩ := mem_entries.1 hentry
    have hreturn := hplain.name_return f hf
    rw [hname] at hreturn
    simpa [line, hreturn] using hplain.value_return f hf _ hvalue
  refine ⟨?_, hlines, ?_, ?_⟩
  · rw [hlines, ← toList_render]
  · have hvalues : h.entries.map Prod.snd = h.toList.flatMap Prod.snd := by
      simp [entries, List.map_flatMap, Function.comp_def]
    rw [hlines, List.length_map, ← hvalues, List.length_map]
  · rw [hlines, List.map_map, ← hwf.gather_entries]
    congr 1
    conv_rhs => rw [← List.map_id h.entries]
    refine List.map_congr_left ?_
    intro entry hentry
    obtain ⟨f, hf, hname, -⟩ := mem_entries.1 hentry
    exact ofLine_line (hname ▸ hplain.name_colon f hf)

end IsWellFormed
end Headers

/-! ### The rendered response -/

namespace Status

lemma mem_all (s : Status) : s ∈ all := by cases s <;> decide

/-- No two statuses are rendered alike. -/
lemma render_injective {s t : Status} (hsame : s.render = t.render) : s = t := by
  have hnodup : (all.map render).Nodup := by decide +kernel
  exact List.inj_on_of_nodup_map hnodup s.mem_all t.mem_all hsame

lemma return_not_mem_render (s : Status) : '\r' ∉ s.render.toList := by cases s <;> decide +kernel

end Status

namespace Response

variable {r s : Response}

lemma lines_render (r : Response) : Text.lines r.render.toList
    = ("HTTP/1.1 " ++ r.status.render).toList :: Text.lines r.headers.render.toList := by
  have hend : "\r\n".toList = ['\r', '\n'] := rfl
  have hstatus : '\r' ∉ ("HTTP/1.1 " ++ r.status.render).toList := by
    rw [String.toList_append, List.mem_append, not_or]
    exact ⟨by decide, r.status.return_not_mem_render⟩
  rw [render, String.toList_append, String.toList_append, hend, List.append_assoc,
    List.cons_append, List.singleton_append, Text.lines_append hstatus]

lemma render_congr (hstatus : r.status = s.status) (hheaders : r.headers.toList = s.headers.toList) :
    r.render = s.render := by
  rw [render, render, Headers.render, Headers.render, hstatus, hheaders]

/-- **A rendered response tells its status and its headers.**  Two responses whose names and values
are plain are rendered alike exactly if they have the same status and list the same headers: the same
names in the same spelling, with the same values, in the same order.  And the lines of the headers
are those of their values, one for each, none merged with another and none left out. -/
theorem render_tells :
    (∀ r s : Response, r.headers.IsReachable → s.headers.IsReachable → r.headers.IsPlain →
        s.headers.IsPlain →
        (r.render = s.render ↔ r.status = s.status ∧ r.headers.toList = s.headers.toList))
      ∧ ∀ h : Headers, h.IsReachable → h.IsPlain → h.IsShownBy h.render.toList := by
  refine ⟨?_, fun h hreach hplain => hreach.isWellFormed.isShownBy_render hplain⟩
  intro r s hr hs hplain hplain'
  constructor
  · intro hsame
    have hshown := hr.isWellFormed.isShownBy_render hplain
    have hshown' := hs.isWellFormed.isShownBy_render hplain'
    have hlines : Text.lines r.render.toList = Text.lines s.render.toList := by rw [hsame]
    rw [lines_render, lines_render] at hlines
    obtain ⟨hfirst, hrest⟩ := List.cons.inj hlines
    refine ⟨Status.render_injective ?_, ?_⟩
    · rwa [String.toList_inj, String.append_right_inj] at hfirst
    · rw [← hshown.gathered, hrest, hshown'.gathered]
  · rintro ⟨hstatus, hheaders⟩
    exact render_congr hstatus hheaders

/-- Two values that were added one after the other are rendered as two that were added together, and
not as one value that holds both. -/
theorem render_tells_added :
    let r := (ok.withHeader "Vary" "a: b").withHeader "Vary" "c"
    let together := ok.withHeaderValues "Vary" ["a: b", "c"]
    let joined := ok.withHeader "Vary" "a: b, c"
    r.render = together.render ∧ r.render ≠ joined.render
      ∧ r.headers.IsShownBy r.headers.render.toList := by
  intro r together joined
  have hempty := Headers.IsReachable.empty
  have hr : r.headers.IsReachable := (hempty.append "Vary" "a: b").append "Vary" "c"
  have htogether : together.headers.IsReachable := hempty.appendAll "Vary" ["a: b", "c"]
  have hjoined : joined.headers.IsReachable := hempty.append "Vary" "a: b, c"
  have hlist : r.headers.toList = [("Vary", ["a: b", "c"])] := by decide +kernel
  have hlist' : together.headers.toList = [("Vary", ["a: b", "c"])] := by decide +kernel
  have hplain : r.headers.IsPlain := by decide +kernel
  obtain ⟨hsame, hshown⟩ := render_tells
  refine ⟨?_, ?_, hshown _ hr hplain⟩
  · have hstatus : r.status = .ok ∧ together.status = .ok := ⟨rfl, rfl⟩
    rw [hsame r together hr htogether hplain (by decide +kernel), hlist, hlist']
    exact ⟨hstatus.1.trans hstatus.2.symm, rfl⟩
  · rw [Ne, hsame r joined hr hjoined hplain (by decide +kernel), hlist]
    rintro ⟨-, hheaders⟩
    exact absurd hheaders (by decide +kernel)

end Response
end HttpMock
