/-
# Patterns bind the segments of a path

A pattern matches the paths that differ from it in its variables only: a path of just as many
segments, in which every segment of the pattern that is no name in braces stands at its place.
The parameters of the path are then a roll of the names, each bound to the segment where it occurs
last.  Where no name occurs twice, a pattern and the values of its names determine the segments of a
path, and a path that is made by filling in values binds the names to these values.

* `Params.isRoll_ofPairs` and `Params.get?_ofPairs_eq_some_iff`: what a row of bindings comes to;
* `Segment.ofText_eq_capture_iff`: which segments of a pattern bind a name;
* `Pattern.bindSegments?_eq_some_iff`: when segments match, and what they bind;
* `Pattern.pathSegments_fillIn`: the segments of a pattern that is filled in;
* `Pattern.binds_exactly`: matching, binding and filling in, put together.
-/
import HttpMock.Proofs.Pieces
import HttpMock.Proofs.Routing

namespace HttpMock

/-! ### Rows of bindings -/

namespace Params

variable {pairs : List (String × String)} {name value : String}

/-- The parameters that are bound one after another. -/
def ofPairs (pairs : List (String × String)) : Params :=
  pairs.foldl (fun p pair => p.bind pair.1 pair.2) .empty

lemma ofPairs_concat (pairs : List (String × String)) (pair : String × String) :
    ofPairs (pairs ++ [pair]) = (ofPairs pairs).bind pair.1 pair.2 := by
  rw [ofPairs, List.foldl_append]
  rfl

/-- A name that is bound for the first time comes last. -/
lemma bindIn_of_not_mem {bindings : List (String × String)}
    (hnew : name ∉ bindings.map Prod.fst) :
    bindIn name value bindings = bindings ++ [(name, value)] := by
  induction bindings with
  | nil => rfl
  | cons b bindings ih =>
    rw [List.map_cons, List.mem_cons, not_or] at hnew
    rw [bindIn, if_neg (Ne.symm hnew.1), ih hnew.2, List.cons_append]

/-- A name that is bound again keeps its place. -/
lemma map_fst_bindIn_of_mem {bindings : List (String × String)}
    (hmem : name ∈ bindings.map Prod.fst) :
    (bindIn name value bindings).map Prod.fst = bindings.map Prod.fst := by
  induction bindings with
  | nil => exact absurd hmem List.not_mem_nil
  | cons b bindings ih =>
    rw [bindIn]
    split
    · next hb => rw [List.map_cons, List.map_cons, hb]
    · next hb =>
      rw [List.map_cons, List.mem_cons] at hmem
      rw [List.map_cons, List.map_cons, ih (hmem.resolve_left (Ne.symm hb))]

/-- The names are a roll of those that were bound. -/
theorem isRoll_ofPairs (pairs : List (String × String)) :
    IsRoll (pairs.map Prod.fst) ((ofPairs pairs).bindings.map Prod.fst) := by
  induction pairs using List.reverseRecOn with
  | nil => exact IsRoll.nil
  | append_singleton pairs pair ih =>
    have hnext := ih.concat pair.1
    rw [List.map_append, List.map_singleton, ofPairs_concat, bind]
    split at hnext
    · next hmem =>
      rw [map_fst_bindIn_of_mem hmem]
      exact hnext
    · next hnew =>
      rw [bindIn_of_not_mem hnew, List.map_append]
      exact hnext

lemma get?_ofPairs (pairs : List (String × String)) (name : String) :
    (ofPairs pairs).get? name = pairs.reverse.lookup name := by
  induction pairs using List.reverseRecOn with
  | nil => rfl
  | append_singleton pairs pair ih =>
    rw [ofPairs_concat, get?_bind, ih, List.reverse_append, List.reverse_singleton,
      List.singleton_append, List.lookup_cons]
    by_cases hname : name = pair.1
    · rw [if_pos hname, beq_iff_eq.2 hname]
    · rw [if_neg hname, beq_false_of_ne hname]

/-- A name has the value to which it was bound last. -/
theorem get?_ofPairs_eq_some_iff :
    (ofPairs pairs).get? name = some value ↔
      ∃ before after, pairs = before ++ (name, value) :: after ∧ ∀ pair ∈ after, pair.1 ≠ name := by
  rw [get?_ofPairs, List.lookup_eq_some_iff]
  constructor
  · rintro ⟨after, before, hpairs, hafter⟩
    refine ⟨before.reverse, after.reverse, ?_, ?_⟩
    · rw [← List.reverse_reverse pairs, hpairs]
      simp
    · intro pair hpair
      exact Ne.symm (bne_iff_ne.1 (hafter pair (List.mem_reverse.1 hpair)))
  · rintro ⟨before, after, rfl, hafter⟩
    refine ⟨after.reverse, before.reverse, by simp, ?_⟩
    intro pair hpair
    exact bne_iff_ne.2 (Ne.symm (hafter pair (List.mem_reverse.1 hpair)))

/-- A name that is bound once only has that value. -/
lemma get?_ofPairs_of_mem (hnodup : (pairs.map Prod.fst).Nodup) (hmem : (name, value) ∈ pairs) :
    (ofPairs pairs).get? name = some value := by
  obtain ⟨before, after, rfl⟩ := List.append_of_mem hmem
  rw [List.map_append, List.map_cons] at hnodup
  have hafter : name ∉ after.map Prod.fst :=
    (List.nodup_cons.1 (List.nodup_append.1 hnodup).2.1).1
  refine get?_ofPairs_eq_some_iff.2 ⟨before, after, rfl, ?_⟩
  rintro pair hpair rfl
  exact hafter (List.mem_map_of_mem hpair)

/-- Names that are bound once only stay as they were bound. -/
lemma ofPairs_of_nodup (hnodup : (pairs.map Prod.fst).Nodup) : ofPairs pairs = ⟨pairs⟩ := by
  induction pairs using List.reverseRecOn with
  | nil => rfl
  | append_singleton pairs pair ih =>
    rw [List.map_append, List.map_singleton, List.nodup_append] at hnodup
    obtain ⟨hfirst, -, hnew⟩ := hnodup
    have hnot : pair.1 ∉ pairs.map Prod.fst := fun hmem =>
      hnew pair.1 hmem pair.1 (List.mem_singleton_self _) rfl
    rw [ofPairs_concat, ih hfirst, bind, bindIn_of_not_mem hnot]

end Params

/-! ### Segments -/

/-- A name in braces. -/
def braced (name : String) : String := "\x7b" ++ name ++ "\x7d"

namespace Segment

variable {text part name : String}

lemma bracedName?_eq_some_iff {s name : List Char} :
    bracedName? s = some name ↔ s = '\x7b' :: name ++ ['\x7d'] := by
  fun_cases bracedName? s with
  | case1 r hlast =>
    obtain ⟨init, rfl⟩ := List.getLast?_eq_some_iff.1 hlast
    simp
  | case2 r hlast =>
    rw [List.getLast?_eq_some_iff, not_exists] at hlast
    simpa using hlast name
  | case3 s hopen =>
    constructor
    · simp
    · rintro rfl
      exact absurd rfl (hopen _)

/-- A segment binds a name exactly if it is the name in braces. -/
lemma ofText_eq_capture_iff : ofText text = .capture name ↔ text = braced name := by
  have hbraced : text = braced name ↔ bracedName? text.toList = some name.toList := by
    rw [bracedName?_eq_some_iff, ← String.toList_inj]
    simp [braced]
  rw [hbraced, ofText]
  split
  · next bound hbound => simp [hbound, ← String.toList_inj]
  · next hnone => simp [hnone]

lemma ofText_of_not_braced (hnot : ∀ name, text ≠ braced name) : ofText text = .literal text := by
  have hnone : ∀ name, ofText text ≠ .capture name := fun name h =>
    hnot name (ofText_eq_capture_iff.1 h)
  rw [ofText] at hnone ⊢
  split
  · next bound hbound => simp [hbound] at hnone
  · rfl

/-- The name that the segment binds, if it does. -/
def name? : Segment → Option String
  | literal _ => none
  | capture name => some name

@[simp] lemma name?_literal (text : String) : (literal text).name? = none := rfl

@[simp] lemma name?_capture (name : String) : (capture name).name? = some name := rfl

lemma name?_ofText_eq_some_iff : (ofText text).name? = some name ↔ text = braced name := by
  rw [← ofText_eq_capture_iff]
  cases ofText text <;> simp

/-- The segment of a path that the segment stands for, where the names have values. -/
def instantiate (value : String → String) : Segment → String
  | literal text => text
  | capture name => value name

lemma instantiate_ofText_braced (value : String → String) (name : String) :
    (ofText (braced name)).instantiate value = value name := by
  rw [ofText_eq_capture_iff.2 rfl, instantiate]

lemma instantiate_ofText_of_not_braced (value : String → String)
    (hnot : ∀ name, text ≠ braced name) : (ofText text).instantiate value = text := by
  rw [ofText_of_not_braced hnot, instantiate]

/-- The segment stands for a segment of a path, for some value of its name. -/
def Fits (s : Segment) (part : String) : Prop := ∀ text, s = .literal text → text = part

lemma fits_instantiate (s : Segment) (value : String → String) : s.Fits (s.instantiate value) := by
  rintro text rfl
  rfl

lemma fits_ofText_iff :
    (ofText text).Fits part ↔ ((∀ name, text ≠ braced name) → text = part) := by
  constructor
  · intro hfits hnot
    exact hfits text (ofText_of_not_braced hnot)
  · intro hpart other hother
    have hnot : ∀ name, text ≠ braced name := by
      intro name hname
      simp [ofText_eq_capture_iff.2 hname] at hother
    rw [ofText_of_not_braced hnot] at hother
    cases hother
    exact hpart hnot

end Segment

/-! ### Matching -/

namespace Pattern

variable {bound params : Params} {segments : List Segment} {parts : List String}

/-- The names that a pattern binds, in order and as often as they occur. -/
def names (p : Pattern) : List String := p.segments.filterMap Segment.name?

/-- The name that a segment binds, if it does, with the segment of a path at its place. -/
def capture? (pair : Segment × String) : Option (String × String) :=
  pair.1.name?.map fun name => (name, pair.2)

/-- The names that segments bind, with the segments of a path that stand at their places. -/
def captures (segments : List Segment) (parts : List String) : List (String × String) :=
  (segments.zip parts).filterMap capture?

@[simp] lemma captures_nil (parts : List String) : captures [] parts = [] := rfl

@[simp] lemma captures_cons_literal (text part : String) :
    captures (.literal text :: segments) (part :: parts) = captures segments parts := rfl

@[simp] lemma captures_cons_capture (name part : String) :
    captures (.capture name :: segments) (part :: parts)
      = (name, part) :: captures segments parts := rfl

/-- Segments match a path if they stand for its segments one by one, and bind their names to these
in order. -/
theorem bindSegments?_eq_some_iff :
    bindSegments? bound segments parts = some params ↔ List.Forall₂ Segment.Fits segments parts
      ∧ params = (captures segments parts).foldl (fun p pair => p.bind pair.1 pair.2) bound := by
  induction segments generalizing bound parts with
  | nil => cases parts <;> simp [bindSegments?, eq_comm]
  | cons segment segments ih =>
    cases parts with
    | nil => cases segment <;> simp [bindSegments?]
    | cons part parts =>
      cases segment with
      | literal text =>
        by_cases hpart : text = part <;>
          simp [bindSegments?, ih, Segment.Fits, hpart]
      | capture name => simp [bindSegments?, ih, Segment.Fits]

lemma match?_eq_some_iff {p : Pattern} {path : String} :
    p.match? path = some params ↔ List.Forall₂ Segment.Fits p.segments (pathSegments path)
      ∧ params = .ofPairs (captures p.segments (pathSegments path)) :=
  bindSegments?_eq_some_iff

lemma matches_iff {p : Pattern} {path : String} :
    p.Matches path ↔ List.Forall₂ Segment.Fits p.segments (pathSegments path) := by
  rw [Matches, Option.isSome_iff_exists]
  simp [match?_eq_some_iff]

lemma map_fst_captures (hlength : segments.length = parts.length) :
    (captures segments parts).map Prod.fst = segments.filterMap Segment.name? := by
  calc (captures segments parts).map Prod.fst
      = ((segments.zip parts).map Prod.fst).filterMap Segment.name? := by
        simp [captures, capture?, List.map_filterMap, List.filterMap_map, Function.comp_def]
    _ = segments.filterMap Segment.name? := by rw [List.map_fst_zip (Nat.le_of_eq hlength)]

/-- A pattern that is filled in binds its names to the values. -/
lemma captures_map_instantiate (value : String → String) (segments : List Segment) :
    captures segments (segments.map (Segment.instantiate value))
      = (segments.filterMap Segment.name?).map fun name => (name, value name) := by
  induction segments with
  | nil => rfl
  | cons segment segments ih =>
    rw [List.map_cons]
    cases segment with
    | literal text =>
      rw [captures_cons_literal, ih, List.filterMap_cons_none (Segment.name?_literal text)]
    | capture name =>
      rw [captures_cons_capture, ih, List.filterMap_cons_some (Segment.name?_capture name),
        List.map_cons, Segment.instantiate]

lemma capture?_ofText_eq_some_iff {pair binding : String × String} :
    (capture? ∘ Prod.map Segment.ofText id) pair = some binding
      ↔ pair = (braced binding.1, binding.2) := by
  obtain ⟨text, part⟩ := pair
  obtain ⟨name, value⟩ := binding
  simp [capture?, Segment.name?_ofText_eq_some_iff]

/-- Of the segments that stand for those of a path, the last with a name gives it its value. -/
lemma get?_captures_eq_some_iff {texts : List String} {name value : String} :
    (Params.ofPairs (captures (texts.map Segment.ofText) parts)).get? name = some value ↔
      ∃ before after, texts.zip parts = before ++ (braced name, value) :: after
        ∧ ∀ pair ∈ after, pair.1 ≠ braced name := by
  have hcaptures : captures (texts.map Segment.ofText) parts
      = (texts.zip parts).filterMap (capture? ∘ Prod.map Segment.ofText id) := by
    rw [captures, List.zip_map_left, List.filterMap_map]
  rw [Params.get?_ofPairs_eq_some_iff, hcaptures]
  constructor
  · rintro ⟨early, late, hsplit, hlate⟩
    obtain ⟨before, rest, hzip, -, hrest⟩ := List.filterMap_eq_append_iff.1 hsplit
    obtain ⟨skipped, pair, after, hrest, -, hpair, hafter⟩ := List.filterMap_eq_cons_iff.1 hrest
    rw [capture?_ofText_eq_some_iff] at hpair
    refine ⟨before ++ skipped, after, ?_, ?_⟩
    · rw [hzip, hrest, hpair, List.append_assoc]
    · intro other hother hname
      have hlast : (name, other.2) ∈ late := by
        rw [← hafter, List.mem_filterMap]
        exact ⟨other, hother, capture?_ofText_eq_some_iff.2 (Prod.ext hname rfl)⟩
      exact hlate _ hlast rfl
  · rintro ⟨before, after, hzip, hafter⟩
    have hlast : (capture? ∘ Prod.map Segment.ofText id) (braced name, value)
        = some (name, value) := capture?_ofText_eq_some_iff.2 rfl
    have hsplit := congrArg (List.filterMap (capture? ∘ Prod.map Segment.ofText id)) hzip
    rw [List.filterMap_append, List.filterMap_cons_some hlast] at hsplit
    refine ⟨_, _, hsplit, ?_⟩
    rintro binding hbinding rfl
    obtain ⟨pair, hpair, hbound⟩ := List.mem_filterMap.1 hbinding
    exact hafter pair hpair (congrArg Prod.fst (capture?_ofText_eq_some_iff.1 hbound))

/-- Where no name occurs twice, the values of the names turn the segments into those of the path. -/
lemma map_instantiate_of_fits (hfits : List.Forall₂ Segment.Fits segments parts)
    (hnodup : (segments.filterMap Segment.name?).Nodup) :
    segments.map (Segment.instantiate fun name =>
      ((Params.ofPairs (captures segments parts)).get? name).getD "") = parts := by
  obtain ⟨hlength, hfits⟩ := List.forall₂_iff_zip.1 hfits
  rw [← map_fst_captures hlength] at hnodup
  rw [← List.forall₂_eq_eq_eq, List.forall₂_map_left_iff, List.forall₂_iff_zip]
  refine ⟨hlength, ?_⟩
  intro segment part hpair
  cases segment with
  | literal text => exact hfits hpair text rfl
  | capture name =>
    have hmem : (name, part) ∈ captures segments parts := by
      rw [captures, List.mem_filterMap]
      exact ⟨(.capture name, part), hpair, rfl⟩
    rw [Segment.instantiate, Params.get?_ofPairs_of_mem hnodup hmem, Option.getD_some]

/-! ### Filling in -/

/-- A piece of a pattern, or the value of its name. -/
def fillPiece (value : String → String) (piece : List Char) : List Char :=
  ((Segment.ofText (String.ofList piece)).instantiate value).toList

/-- The text of a pattern with values in place of its names. -/
def fillIn (value : String → String) (pattern : String) : String :=
  String.ofList (['/'].intercalate ((pattern.toList.splitOn '/').map (fillPiece value)))

lemma mem_pathSegments_iff {part path : String} :
    part ∈ pathSegments path ↔ part ≠ "" ∧ part.toList ∈ path.toList.splitOn '/' := by
  rw [pathSegments, List.mem_map]
  constructor
  · rintro ⟨piece, hpiece, rfl⟩
    simpa [and_comm, List.isEmpty_iff] using hpiece
  · rintro ⟨hne, hpart⟩
    exact ⟨part.toList, by simpa [List.isEmpty_iff, hpart] using hne, String.ofList_toList⟩

lemma mem_names_ofText_iff {pattern name : String} :
    name ∈ (ofText pattern).names ↔ braced name ∈ pathSegments pattern := by
  simp [names, ofText, Segment.name?_ofText_eq_some_iff]

/-- The segments of a path that is joined from pieces are the pieces that are not empty. -/
lemma pathSegments_intercalate {pieces : List (List Char)} (hne : pieces ≠ [])
    (hslash : ∀ piece ∈ pieces, '/' ∉ piece) :
    pathSegments (String.ofList (['/'].intercalate pieces))
      = (pieces.filter (!·.isEmpty)).map String.ofList := by
  rw [pathSegments, String.toList_ofList, List.splitOn_intercalate '/' hslash hne]

/-- A piece that is filled in stays one piece, and is empty only if it was. -/
lemma fillPiece_of_mem_splitOn {pattern : String} {value : String → String} {piece : List Char}
    (hvalue : ∀ name ∈ (ofText pattern).names, value name ≠ "" ∧ '/' ∉ (value name).toList)
    (hpiece : piece ∈ pattern.toList.splitOn '/') :
    '/' ∉ fillPiece value piece ∧ (fillPiece value piece = [] ↔ piece = []) := by
  by_cases hbraced : ∃ name, String.ofList piece = braced name
  · obtain ⟨name, hname⟩ := hbraced
    have hnil : String.ofList piece ≠ "" := by
      rw [hname]
      simp [braced]
    have hmem : name ∈ (ofText pattern).names := by
      rw [mem_names_ofText_iff, mem_pathSegments_iff, ← hname, String.toList_ofList]
      exact ⟨hnil, hpiece⟩
    obtain ⟨hne, hslash⟩ := hvalue name hmem
    rw [fillPiece, hname, Segment.instantiate_ofText_braced]
    refine ⟨hslash, ?_⟩
    rw [String.toList_eq_nil_iff, ← String.ofList_eq_empty_iff]
    exact iff_of_false hne hnil
  · rw [fillPiece, Segment.instantiate_ofText_of_not_braced value (not_exists.1 hbraced),
      String.toList_ofList]
    exact ⟨Text.not_mem_of_mem_splitOn hpiece, Iff.rfl⟩

/-- The segments of a pattern that is filled in: values that are segments take the places of the
names, whatever slashes the pattern has. -/
theorem pathSegments_fillIn {pattern : String} {value : String → String}
    (hvalue : ∀ name ∈ (ofText pattern).names, value name ≠ "" ∧ '/' ∉ (value name).toList) :
    pathSegments (fillIn value pattern)
      = (ofText pattern).segments.map (Segment.instantiate value) := by
  have hslash : ∀ piece ∈ (pattern.toList.splitOn '/').map (fillPiece value), '/' ∉ piece := by
    rw [List.forall_mem_map]
    exact fun piece hpiece => (fillPiece_of_mem_splitOn hvalue hpiece).1
  have hkeep : (pattern.toList.splitOn '/').filter ((!·.isEmpty) ∘ fillPiece value)
      = (pattern.toList.splitOn '/').filter (!·.isEmpty) := by
    apply List.filter_congr
    intro piece hpiece
    rw [Bool.eq_iff_iff]
    simp [(fillPiece_of_mem_splitOn hvalue hpiece).2]
  rw [fillIn, pathSegments_intercalate (by simp) hslash, List.filter_map, hkeep]
  simp [ofText, pathSegments, fillPiece, Function.comp_def]

/-! ### Patterns and requests -/

/-- The path of a request is what stands before the first question mark of its target. -/
lemma exists_uri_eq_path_append (req : Request) :
    ∃ query, req.uri.toList = req.path.toList ++ query ∧ '?' ∉ req.path.toList
      ∧ (query = [] ∨ ['?'] <+: query) := by
  rw [Request.path, String.toList_ofList]
  refine ⟨_, List.takeWhile_append_dropWhile.symm, ?_, ?_⟩
  · intro hmem
    have hbefore := List.all_eq_true.1 List.all_takeWhile '?' hmem
    simp at hbefore
  · rw [or_iff_not_imp_left]
    intro hne
    have hhead := List.head_dropWhile_not (· != '?') hne
    rw [bne_eq_false_iff_eq] at hhead
    rw [← List.cons_head_tail hne, List.singleton_prefix_cons_iff, hhead]

/-- **Patterns bind exactly.**  A pattern matches a request whose path, what stands before the first
question mark of the target, has just as many segments and, at their places, those of the pattern
that are no names in braces.  The parameters, which the request is given where a route of this
pattern is run, are then a roll of the names, each bound to the segment where the name occurs last.
Where no name occurs twice, filling in the parameters gives the segments of the path again, and
filling in segments gives a path that binds them. -/
theorem binds_exactly (pattern : String) (req : Request) :
    (∃ query, req.uri.toList = req.path.toList ++ query ∧ '?' ∉ req.path.toList
        ∧ (query = [] ∨ ['?'] <+: query))
      ∧ ((ofText pattern).Matches req.path ↔
        (pathSegments pattern).length = (pathSegments req.path).length
          ∧ ∀ pair ∈ (pathSegments pattern).zip (pathSegments req.path),
            (∀ name, pair.1 ≠ braced name) → pair.1 = pair.2)
      ∧ (∀ params, (ofText pattern).match? req.path = some params →
        IsRoll (ofText pattern).names (params.bindings.map Prod.fst)
          ∧ (∀ name value, params.get? name = some value ↔ ∃ before after,
            (pathSegments pattern).zip (pathSegments req.path)
                = before ++ (braced name, value) :: after
              ∧ ∀ pair ∈ after, pair.1 ≠ braced name)
          ∧ (∀ (r : Router) (route : Route) (bound : Params), route.pattern = ofText pattern →
            r.Runs req route bound → (r.dispatch req).request.params = params)
          ∧ ((ofText pattern).names.Nodup →
            (ofText pattern).segments.map
                (Segment.instantiate fun name => (params.get? name).getD "")
              = pathSegments req.path))
      ∧ ((ofText pattern).names.Nodup → ∀ value : String → String,
        (∀ name ∈ (ofText pattern).names, value name ≠ "" ∧ '/' ∉ (value name).toList) →
        (ofText pattern).match? (fillIn value pattern)
          = some ⟨(ofText pattern).names.map fun name => (name, value name)⟩) := by
  refine ⟨exists_uri_eq_path_append req, ?_, ?_, ?_⟩
  · rw [matches_iff, ofText, List.forall₂_map_left_iff, List.forall₂_iff_zip]
    simp only [Segment.fits_ofText_iff, Prod.forall]
  · intro params hmatch
    obtain ⟨hfits, hparams⟩ := match?_eq_some_iff.1 hmatch
    refine ⟨?_, ?_, ?_, ?_⟩
    · rw [hparams, names, ← map_fst_captures hfits.length_eq]
      exact Params.isRoll_ofPairs _
    · intro name value
      rw [hparams]
      exact get?_captures_eq_some_iff
    · intro r route bound hpattern hruns
      have hbound : some bound = some params := by rw [← hruns.binds, hpattern, hmatch]
      rw [hruns.exchange]
      exact Option.some.inj hbound
    · intro hnodup
      rw [hparams]
      exact map_instantiate_of_fits hfits hnodup
  · intro hnodup value hvalue
    rw [match?_eq_some_iff, pathSegments_fillIn hvalue, captures_map_instantiate]
    constructor
    · rw [List.forall₂_map_right_iff, List.forall₂_same]
      exact fun segment _ => segment.fits_instantiate value
    · have hnames : ((ofText pattern).names.map fun name => (name, value name)).map Prod.fst
          = (ofText pattern).names := by
        rw [List.map_map]
        exact List.map_id _
      rw [← hnames] at hnodup
      exact (Params.ofPairs_of_nodup hnodup).symm

/-- A brace alone is no name, slashes may be doubled and the query is left out; and a name that
occurs twice counts where it occurs last. -/
theorem binds_exactly_shop :
    let shop := "/shop//\x7bitem\x7d/\x7b/\x7bsize\x7d/"
    let req : Request := .new .get "shop/42/\x7b//large?size=small"
    let params : Params := ⟨[("item", "42"), ("size", "large")]⟩
    let value (name : String) : String := name ++ "?"
    let twice : Request := .new .get "/1/2/3"
    ((Router.empty.get shop fun _ => .ok).dispatch req).request.params = params
      ∧ (ofText shop).segments.map (Segment.instantiate fun name => (params.get? name).getD "")
        = pathSegments req.path
      ∧ (ofText shop).match? (fillIn value shop) = some ⟨[("item", "item?"), ("size", "size?")]⟩
      ∧ ∃ params, (ofText "\x7ba\x7d/\x7bb\x7d/\x7ba\x7d").match? twice.path = some params
        ∧ params.get? "a" = some "3" := by
  intro shop req params value twice
  have hmatch : (ofText shop).match? req.path = some params := by decide +kernel
  have hnames : (ofText shop).names = ["item", "size"] := by decide +kernel
  have hnodup : (ofText shop).names.Nodup := by rw [hnames]; decide
  have hruns : (Router.empty.get shop fun _ => .ok).Runs req
      ⟨.get, .ofText shop, fun _ => .ok⟩ params :=
    { first := ⟨[], [], rfl, by simp⟩
      answers := rfl
      binds := hmatch
      exchange := Router.dispatch_of_findRoute? (Router.findRoute?_eq_some_iff.2
        ⟨⟨[], [], rfl, by simp⟩, rfl, hmatch⟩) }
  obtain ⟨-, -, hbound, hfilled⟩ := binds_exactly shop req
  obtain ⟨-, -, hparams, hsegments⟩ := hbound params hmatch
  obtain ⟨-, -, hlast, -⟩ := binds_exactly "\x7ba\x7d/\x7bb\x7d/\x7ba\x7d" twice
  have htwice : (ofText "\x7ba\x7d/\x7bb\x7d/\x7ba\x7d").match? twice.path
      = some ⟨[("a", "3"), ("b", "2")]⟩ := by decide +kernel
  refine ⟨hparams _ _ params rfl hruns, hsegments hnodup, ?_, _, htwice, ?_⟩
  · have hvalue : ∀ name ∈ (ofText shop).names, value name ≠ "" ∧ '/' ∉ (value name).toList := by
      rw [hnames]
      decide +kernel
    rw [hfilled hnodup value hvalue, hnames]
    decide +kernel
  · rw [(hlast _ htwice).2.1]
    exact ⟨[("\x7ba\x7d", "1"), ("\x7bb\x7d", "2")], [], by decide +kernel, by simp⟩

end Pattern
end HttpMock
