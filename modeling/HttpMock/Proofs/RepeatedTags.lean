/-
# Several lists of tags

A request that names the header for tags more than once has several lists of tags.  By the rules of
the protocol they are one list, whose parts are joined by commas.  The conditions are not so
generous: they look at the first list only, and a tag that stands in a later one is overlooked.

This file compares a request with several lists to the one that has the joined list, for handlers
that do not look at the tags.

* `EntityTag.isListed_intercalate`: a joined list names what one of its parts names;
* `Router.dispatch_of_agreesButTags`: the router gives both requests the same answer;
* `Harness.handle_lists`: the first list decides, and both requests are answered alike unless a tag
  is overlooked.
-/
import HttpMock.Proofs.Conditions
import HttpMock.Proofs.HeaderInvariant
import HttpMock.Proofs.TagLists
import HttpMock.Request.Draft

namespace HttpMock

/-! ### Joined lists -/

namespace EntityTag

variable {c : Char} {piece tag : List Char}

lemma standsFor_blank_cons (hc : Text.isBlank c = true) :
    standsFor (c :: piece) tag = standsFor piece tag := by
  have htrim : Text.trimChars (c :: piece) = Text.trimChars piece := by
    simpa using Text.trimChars_append_append (p := [c]) (s := piece) (q := []) (by simpa using hc)
      (List.forall_mem_nil _)
  rw [standsFor, standsFor, htrim]

/-- A blank in front of a list goes to its first piece, from which it is trimmed. -/
lemma any_splitOn_blank_cons (hc : Text.isBlank c = true) (s : List Char) :
    ((c :: s).splitOn ',').any (standsFor · tag) = (s.splitOn ',').any (standsFor · tag) := by
  have hcomma : ¬ (c == ',') = true := by
    rintro hc'
    obtain rfl := beq_iff_eq.1 hc'
    exact absurd hc (by decide)
  obtain ⟨first, rest, hsplit⟩ := List.exists_cons_of_ne_nil (List.splitOn_ne_nil ',' s)
  rw [List.splitOn_cons_eq_if_modifyHead, if_neg hcomma, hsplit, List.modifyHead_cons,
    List.any_cons, List.any_cons, standsFor_blank_cons hc]

lemma isListed_blank_append (list tag : String) :
    isListed (" " ++ list) tag = isListed list tag := by
  rw [isListed, String.toList_append]
  exact any_splitOn_blank_cons (by decide) list.toList

/-- A blank after the comma between two lists goes unnoticed. -/
lemma isListed_append (a b tag : String) :
    isListed (a ++ ", " ++ b) tag = (isListed a tag || isListed b tag) := by
  have hsep : ", " = "," ++ " " := rfl
  rw [hsep, ← String.append_assoc, String.append_assoc, isListed_comma_append,
    isListed_blank_append]

/-- **A joined list names what one of its parts names.** -/
theorem isListed_intercalate {lists : List String} (hne : lists ≠ []) (tag : String) :
    isListed (", ".intercalate lists) tag = lists.any (isListed · tag) :=
  isListed_intercalate_of (fun a b => isListed_append a b tag) hne

end EntityTag

/-! ### Requests that differ in their tags -/

namespace Request

/-- The lists of tags that a request names, one after another. -/
def tagLists (req : Request) : List String := req.headers.getAll RequestHeader.ifNoneMatch.name

/-- Two requests differ in their lists of tags at most. -/
structure AgreesButTags (req other : Request) : Prop where
  /-- They ask for the same to be done. -/
  method : other.method = req.method
  /-- They have the same target. -/
  uri : other.uri = req.uri
  /-- They have the same version. -/
  version : other.version = req.version
  /-- They have the same body. -/
  body : other.body = req.body
  /-- The same parameters are bound in both. -/
  params : other.params = req.params
  /-- They have the same other headers, in the same order. -/
  headers : (other.headers.fields.filter
      fun f => f.key != Headers.key RequestHeader.ifNoneMatch.name)
    = req.headers.fields.filter fun f => f.key != Headers.key RequestHeader.ifNoneMatch.name

/-- A request to which a list of tags is added differs in its lists of tags only, however the name is
spelled. -/
lemma agreesButTags_append (req : Request) {name : String}
    (hname : Headers.key name = Headers.key RequestHeader.ifNoneMatch.name) (list : String) :
    req.AgreesButTags { req with headers := req.headers.append name list } where
  method := rfl
  uri := rfl
  version := rfl
  body := rfl
  params := rfl
  headers := Headers.filter_updateFields_key
    (fun key => key != Headers.key RequestHeader.ifNoneMatch.name) (by simp [hname]) _ _

namespace AgreesButTags

variable {req other third : Request}

lemma symm (h : req.AgreesButTags other) : other.AgreesButTags req :=
  ⟨h.method.symm, h.uri.symm, h.version.symm, h.body.symm, h.params.symm, h.headers.symm⟩

lemma trans (h : req.AgreesButTags other) (h' : other.AgreesButTags third) :
    req.AgreesButTags third :=
  ⟨h'.method.trans h.method, h'.uri.trans h.uri, h'.version.trans h.version, h'.body.trans h.body,
    h'.params.trans h.params, h'.headers.trans h.headers⟩

end AgreesButTags
end Request

/-- A handler that does not look at the tags of a request. -/
def Handler.IgnoresTags (handler : Handler) : Prop :=
  ∀ req other : Request, req.AgreesButTags other → handler other = handler req

namespace Router

variable {r : Router} {req other : Request}

/-- Routing looks at the method and the path, and handlers look at no tags. -/
lemma dispatch_of_agreesButTags (hagree : req.AgreesButTags other)
    (hhandlers : ∀ route ∈ r.routes, route.handler.IgnoresTags) :
    (r.dispatch other).response = (r.dispatch req).response := by
  have hpath : other.path = req.path := by rw [Request.path, hagree.uri, ← Request.path]
  have hfound : findRoute? other r.routes = findRoute? req r.routes := by
    rw [findRoute?, findRoute?, hagree.method, hpath]
  rw [dispatch, dispatch, hfound, hpath]
  cases hroute : findRoute? req r.routes with
  | some found =>
    obtain ⟨route, params⟩ := found
    exact hhandlers route (mem_of_findRoute? hroute) _ _
      { hagree with params := rfl }
  | none => cases allowedMethods req.path r.routes <;> rfl

end Router

/-! ### The first list and the others -/

namespace Request

variable {settings : Settings} {req other : Request} {res : Response} {first : String}
  {rest : List String}

/-- A later list of tags names the tag of a response that could be cut down, and the first list does
not. -/
structure Overlooks (settings : Settings) (req : Request) (res : Response) : Prop where
  /-- Conditions are looked at. -/
  looked : settings.conditionalRequests = true
  /-- The request only reads. -/
  reads : req.method = .get ∨ req.method = .head
  /-- The response is a plain success. -/
  served : res.status = .ok
  /-- The tag stands in a later list only. -/
  later : ∃ first rest tag, req.tagLists = first :: rest
    ∧ (res.headers.getAll ResponseHeader.etag.name).head? = some tag
    ∧ EntityTag.isListed first tag = false ∧ ∃ list ∈ rest, EntityTag.isListed list tag = true

/-- Where there are tags, the first list decides. -/
lemma isSpared_iff_of_tagLists (hlists : req.tagLists = first :: rest) :
    req.IsSpared settings res ↔ settings.conditionalRequests = true
      ∧ (req.method = .get ∨ req.method = .head) ∧ res.status = .ok
      ∧ ∃ tag, (res.headers.getAll ResponseHeader.etag.name).head? = some tag
        ∧ EntityTag.isListed first tag = true := by
  have hdate : ¬ req.HasLaterDate res := by
    rintro ⟨hnone, -⟩
    rw [← tagLists, hlists] at hnone
    exact absurd hnone (by simp)
  have htag : req.ListsTag res ↔ ∃ tag,
      (res.headers.getAll ResponseHeader.etag.name).head? = some tag
        ∧ EntityTag.isListed first tag = true := by
    rw [ListsTag, ← tagLists, hlists]
    simp
  rw [isSpared_iff_and, htag, or_iff_left hdate]

lemma isSpared_congr_of_head? (hmethod : other.method = req.method) (hlists : req.tagLists ≠ [])
    (hfirst : other.tagLists.head? = req.tagLists.head?) :
    other.IsSpared settings res ↔ req.IsSpared settings res := by
  obtain ⟨first, rest, hreq⟩ := List.exists_cons_of_ne_nil hlists
  rw [hreq, List.head?_cons, List.head?_eq_some_iff] at hfirst
  obtain ⟨more, hother⟩ := hfirst
  rw [isSpared_iff_of_tagLists hreq, isSpared_iff_of_tagLists hother, hmethod]

/-- With the joined list, the client is spared what it is spared with the first list, and what is
overlooked otherwise. -/
lemma isSpared_iff_of_joined (hmethod : other.method = req.method) (hlists : req.tagLists ≠ [])
    (hjoined : other.tagLists = [", ".intercalate req.tagLists]) :
    other.IsSpared settings res ↔ req.IsSpared settings res ∨ req.Overlooks settings res := by
  obtain ⟨first, rest, hreq⟩ := List.exists_cons_of_ne_nil hlists
  have hlisted (tag : String) : EntityTag.isListed (", ".intercalate req.tagLists) tag = true ↔
      EntityTag.isListed first tag = true ∨ ∃ list ∈ rest, EntityTag.isListed list tag = true := by
    rw [EntityTag.isListed_intercalate hlists, hreq, List.any_cons, Bool.or_eq_true,
      List.any_eq_true]
  rw [isSpared_iff_of_tagLists hreq, isSpared_iff_of_tagLists hjoined, hmethod]
  simp only [hlisted]
  constructor
  · rintro ⟨hlooked, hreads, hserved, tag, htag, hnamed⟩
    cases hfirst : EntityTag.isListed first tag with
    | true => exact .inl ⟨hlooked, hreads, hserved, tag, htag, hfirst⟩
    | false =>
      have hlater := hnamed.resolve_left (by simp [hfirst])
      exact .inr ⟨hlooked, hreads, hserved, first, rest, tag, hreq, htag, hfirst, hlater⟩
  · rintro (⟨hlooked, hreads, hserved, tag, htag, hfirst⟩ |
      ⟨hlooked, hreads, hserved, first', rest', tag, hreq', htag, -, hlater⟩)
    · exact ⟨hlooked, hreads, hserved, tag, htag, .inl hfirst⟩
    · rw [hreq] at hreq'
      obtain ⟨rfl, rfl⟩ := List.cons.inj hreq'
      exact ⟨hlooked, hreads, hserved, tag, htag, .inr hlater⟩

/-- What is overlooked is not spared. -/
lemma Overlooks.not_isSpared (h : req.Overlooks settings res) : ¬ req.IsSpared settings res := by
  obtain ⟨-, -, -, first, rest, tag, hreq, htag, hfirst, -⟩ := h
  rw [isSpared_iff_of_tagLists hreq]
  rintro ⟨-, -, -, tag', htag', hlisted⟩
  rw [htag] at htag'
  obtain rfl := Option.some.inj htag'
  exact absurd hlisted (by simp [hfirst])

end Request

/-! ### The answers -/

namespace Response

variable {settings : Settings} {req : Request} {res : Response}

lemma finish_status_of_isSpared (hspared : req.IsSpared settings res) :
    (res.finish settings req).status = .notModified := by
  rw [finish_status, conditional_status, if_pos (Request.isSpared_iff.1 hspared)]

lemma finish_status_of_not_isSpared (hspared : ¬ req.IsSpared settings res) :
    (res.finish settings req).status = res.status := by
  rw [finish_status, conditional_status, if_neg (mt Request.isSpared_iff.2 hspared)]

end Response

namespace Harness

/-- **Of several lists of tags the first decides**, for handlers that do not look at the tags.  A
request with several lists is answered as one that has the first alone; and it is answered as the
one that has the joined list, unless a later list names the tag and the first does not.  In that
case the content is sent again, where the joined list would have spared it. -/
theorem handle_lists (h : Harness) (req other : Request) (hagree : req.AgreesButTags other)
    (hhandlers : ∀ route ∈ h.router.routes, route.handler.IgnoresTags)
    (hlists : req.tagLists ≠ []) :
    (other.tagLists.head? = req.tagLists.head? →
        (h.handle other).response = (h.handle req).response)
      ∧ (other.tagLists = [", ".intercalate req.tagLists] →
        ((h.handle other).response = (h.handle req).response
            ↔ ¬ req.Overlooks h.settings (h.router.dispatch req).response)
          ∧ (req.Overlooks h.settings (h.router.dispatch req).response →
            (h.handle req).response.status = .ok
              ∧ (h.handle other).response.status = .notModified)) := by
  have hdispatch := Router.dispatch_of_agreesButTags hagree hhandlers
  rw [handle_response, handle_response, hdispatch]
  generalize (h.router.dispatch req).response = res
  constructor
  · intro hfirst
    exact Response.finish_congr hagree.method
      (Request.isSpared_congr_of_head? hagree.method hlists hfirst)
  · intro hjoined
    have hspared : other.IsSpared h.settings res
        ↔ req.IsSpared h.settings res ∨ req.Overlooks h.settings res :=
      Request.isSpared_iff_of_joined hagree.method hlists hjoined
    have hstatus (hover : req.Overlooks h.settings res) :
        (res.finish h.settings req).status = .ok
          ∧ (res.finish h.settings other).status = .notModified := by
      rw [Response.finish_status_of_not_isSpared hover.not_isSpared]
      exact ⟨hover.served, Response.finish_status_of_isSpared (hspared.2 (.inr hover))⟩
    refine ⟨⟨?_, ?_⟩, hstatus⟩
    · intro hsame hover
      obtain ⟨hreq, hother⟩ := hstatus hover
      rw [hsame, hreq] at hother
      exact absurd hother (by decide)
    · intro hover
      exact Response.finish_congr hagree.method (hspared.trans (or_iff_left hover))

/-- A tag that stands in the second of two lists is overlooked, and not if the lists are joined. -/
theorem handle_lists_second :
    let page := serving (Response.ok.withEtag "\"v1\"")
    let twice := (Draft.ofSteps .get "/" [.header "If-None-Match" "\"v0\"",
      .header "if-none-match" "\"v1\""]).request
    let once := (Draft.ofSteps .get "/" [.header "If-None-Match" "\"v0\", \"v1\""]).request
    (page.handle twice).response.status = .ok
      ∧ (page.handle once).response.status = .notModified := by
  intro page twice once
  -- through the folded names, so that two spellings are not compared by evaluation
  obtain ⟨hlower, hupper⟩ : Headers.key "if-none-match" = "if-none-match"
      ∧ Headers.key "If-None-Match" = "if-none-match" := by decide +kernel
  have hname : Headers.key "if-none-match" = Headers.key "If-None-Match" :=
    hlower.trans hupper.symm
  have hlists : twice.tagLists = ["\"v0\"", "\"v1\""] := by
    show ((Headers.empty.append "If-None-Match" "\"v0\"").append "if-none-match" "\"v1\"").getAll
      "If-None-Match" = _
    rw [Headers.getAll_append, if_pos hname.symm, Headers.getAll_append, if_pos rfl,
      Headers.getAll_empty]
    rfl
  have hjoined : once.tagLists = [", ".intercalate twice.tagLists] := by
    show (Headers.empty.append "If-None-Match" "\"v0\", \"v1\"").getAll "If-None-Match" = _
    rw [Headers.getAll_append, if_pos rfl, Headers.getAll_empty, hlists]
    decide
  have hagree : twice.AgreesButTags once :=
    ((Request.agreesButTags_append (Request.new .get "/") rfl _).trans
      (Request.agreesButTags_append _ hname _)).symm.trans
        (Request.agreesButTags_append (Request.new .get "/") rfl _)
  have hhandlers : ∀ route ∈ page.router.routes, route.handler.IgnoresTags := by
    intro route hroute
    obtain rfl := List.mem_singleton.1 hroute
    intro _ _ _
    rfl
  obtain ⟨-, hanswers⟩ := handle_lists page twice once hagree hhandlers (by simp [hlists])
  refine (hanswers hjoined).2 ⟨rfl, .inl rfl, by decide +kernel, ?_⟩
  exact ⟨_, _, "\"v1\"", hlists, by decide +kernel, by decide +kernel, "\"v1\"",
    List.mem_singleton_self _, by decide +kernel⟩

end Harness
end HttpMock
