/-
# What finishing leaves alone

Finishing a response may touch its status, its body and three of its headers: the length and the
type of the content, and the name of the server.  It touches no other header, not even by moving it,
and of these three it changes no more than it has to.  `Response.IsKept` says so in full.

A response that has been finished is as it should be.  So there is nothing left to do when it is
finished again for the same request: the conditions are answered by the headers that were left
alone, and a response that was cut down is no longer a plain success.

* `Response.finish_isKept`: what a finished response has of the response that was made;
* `Response.finish_finish`: finishing twice is finishing once.
-/
import HttpMock.Proofs.HeaderInvariant
import HttpMock.Proofs.Conditions

namespace HttpMock

/-! ### Edits of header maps -/

namespace Headers

variable {h : Headers} {name other value : String}

lemma find?_set_of_ne (hkey : key other ≠ key name) :
    (h.set name value).find? other = h.find? other :=
  find?_updateFields_of_ne hkey _ h.fields

/-- A header that is not there need not be removed. -/
lemma erase_eq_self (hnone : h.contains name = false) : h.erase name = h := by
  have hall : ∀ f ∈ h.fields, (f.key != key name) = true := by
    simpa using contains_eq_false_iff.1 hnone
  rw [erase, List.filter_eq_self.2 hall]

/-- Rewriting leaves a header alone if its values are as they would be rewritten. -/
lemma updateFields_eq_self {rewrite : List String → List String} {fields : List Field} {f : Field}
    (hfound : fields.find? (fun f => f.key == key name) = some f)
    (hvalues : rewrite f.values = f.values) : updateFields name rewrite fields = fields := by
  induction fields with
  | nil => exact absurd hfound (by simp)
  | cons g fields ih =>
    by_cases hg : g.key = key name
    · obtain rfl : g = f := by simpa [hg] using hfound
      rw [updateFields, if_pos hg, hvalues]
    · have hrest : fields.find? (fun f => f.key == key name) = some f := by
        simpa [hg] using hfound
      rw [updateFields, if_neg hg, ih hrest]

/-- A header that has just this value need not be given it. -/
lemma set_eq_self (hvalue : h.getAll name = [value]) : h.set name value = h := by
  rw [getAll] at hvalue
  cases hfound : h.find? name with
  | none =>
    rw [hfound] at hvalue
    exact absurd hvalue (by simp)
  | some f =>
    rw [hfound] at hvalue
    rw [set, updateFields_eq_self hfound hvalue.symm]

/-- A header that is set keeps its place and its spelling, or comes last if it is new. -/
lemma map_name_set (h : Headers) (name value : String) :
    (h.set name value).fields.map Field.name
      = h.fields.map Field.name ++ if h.contains name then [] else [name] := by
  rcases updateFields_cases name (fun _ => [value]) h.fields with
    ⟨before, f, after, hfields, hf, hupdate⟩ | ⟨hnone, hupdate⟩
  · have hthere : h.contains name = true := by
      rw [← Bool.not_eq_false, contains_eq_false_iff]
      intro hnone
      exact hnone f (by simp [hfields]) hf
    rw [set, hupdate, hfields, hthere]
    simp
  · rw [set, hupdate, contains_eq_false_iff.2 hnone]
    simp

end Headers

/-! ### What stays of a response -/

namespace Response

/-- Whether finishing may touch the header of a key, which is so for three headers. -/
def mayTouch (key : String) : Bool :=
  key == Headers.key ResponseHeader.contentLength.name
    || key == Headers.key ResponseHeader.contentType.name
    || key == Headers.key ResponseHeader.server.name

/-- The names of the headers of a response, in order and as they are spelled. -/
def names (r : Response) : List String := r.headers.toList.map Prod.fst

/-- The name of a header if it is new in a response. -/
def newName (made sent : Response) (h : ResponseHeader) : List String :=
  if sent.hasHeader h && !made.hasHeader h then [h.name] else []

/-- What the response `sent` has of the response `made`, from which it was finished. -/
structure IsKept (settings : Settings) (made sent : Response) : Prop where
  /-- A header that may not be touched is found as it was, in its spelling and with its values. -/
  others : ∀ name, mayTouch (Headers.key name) = false →
    sent.headers.find? name = made.headers.find? name
  /-- The headers that may not be touched stand in the order in which they stood. -/
  listed : (sent.headers.fields.filter fun f => !mayTouch f.key)
    = made.headers.fields.filter fun f => !mayTouch f.key
  /-- The type of the content is gone if there can be no content, and else as it was. -/
  contentType : sent.headers.find? ResponseHeader.contentType.name
    = if sent.status = .noContent ∨ sent.status = .notModified then none
      else made.headers.find? ResponseHeader.contentType.name
  /-- A length that was told and is still told is as it was. -/
  contentLength : made.hasHeader .contentLength = true → sent.hasHeader .contentLength = true →
    sent.headers.find? ResponseHeader.contentLength.name
      = made.headers.find? ResponseHeader.contentLength.name
  /-- A server without a name leaves the header for it alone. -/
  server : settings.serverName = none →
    sent.headers.find? ResponseHeader.server.name = made.headers.find? ResponseHeader.server.name
  /-- The headers that were there and are not gone stand first, in their order and with their
  spellings, and behind them stand the length and the server where these are new. -/
  placed : sent.names
    = (made.headers.fields.filter fun f => sent.status.allowsBody
        || (f.key != Headers.key ResponseHeader.contentLength.name
          && f.key != Headers.key ResponseHeader.contentType.name)).map Field.name
      ++ (newName made sent .contentLength ++ newName made sent .server)
  /-- The status changes from a plain success to the news that nothing was modified, or not at
  all. -/
  status : sent.status = made.status ∨ (made.status = .ok ∧ sent.status = .notModified)
  /-- The body is sent in full or not at all. -/
  body : sent.body = made.body ∨ sent.body = .empty

variable (settings : Settings) (req : Request) (res : Response) {name : String}

lemma mayTouch_eq_false_iff {key : String} :
    mayTouch key = false ↔ key ≠ Headers.key ResponseHeader.contentLength.name
      ∧ key ≠ Headers.key ResponseHeader.contentType.name
      ∧ key ≠ Headers.key ResponseHeader.server.name := by
  simp [mayTouch, and_assoc]

/-! ### The framed response -/

/-- Framing leaves the headers alone, or adds a length at the end, or takes away what tells of a
body. -/
lemma framed_headers_cases :
    (res.status.allowsBody = true ∧ res.hasHeader .contentLength = true
        ∧ res.framed.headers = res.headers)
      ∨ (res.status.allowsBody = true ∧ res.hasHeader .contentLength = false
        ∧ res.framed.headers = res.headers.set ResponseHeader.contentLength.name
          (Text.decimal res.body.size))
      ∨ (res.status.allowsBody = false ∧ res.framed.headers
        = (res.headers.erase ResponseHeader.contentLength.name).erase
          ResponseHeader.contentType.name) := by
  rw [framed]
  split
  · next hallows =>
    rw [withLength]
    split
    · next hlength => exact .inl ⟨hallows, hlength, rfl⟩
    · next hlength => exact .inr (.inl ⟨hallows, by simpa using hlength, rfl⟩)
  · next hallows => exact .inr (.inr ⟨by simpa using hallows, rfl⟩)

/-- A header that does not tell of a body is found as it was. -/
lemma framed_find?_of_ne (hlength : Headers.key name ≠ Headers.key ResponseHeader.contentLength.name)
    (htype : Headers.key name ≠ Headers.key ResponseHeader.contentType.name) :
    res.framed.headers.find? name = res.headers.find? name := by
  rcases res.framed_headers_cases with ⟨-, -, hheaders⟩ | ⟨-, -, hheaders⟩ | ⟨-, hheaders⟩
  · rw [hheaders]
  · rw [hheaders, Headers.find?_set_of_ne hlength]
  · rw [hheaders, Headers.find?_erase, if_neg htype, Headers.find?_erase, if_neg hlength]

lemma framed_find?_contentType :
    res.framed.headers.find? ResponseHeader.contentType.name
      = if res.status.allowsBody then res.headers.find? ResponseHeader.contentType.name
        else none := by
  rcases res.framed_headers_cases with
    ⟨hallows, -, hheaders⟩ | ⟨hallows, -, hheaders⟩ | ⟨hallows, hheaders⟩
  · rw [hheaders, if_pos hallows]
  · rw [hheaders, if_pos hallows, Headers.find?_set_of_ne (by simp)]
  · rw [hheaders, hallows, Headers.find?_erase, if_pos rfl]
    rfl

lemma framed_filter (p : String → Bool)
    (hlength : p (Headers.key ResponseHeader.contentLength.name) = false)
    (htype : p (Headers.key ResponseHeader.contentType.name) = false) :
    (res.framed.headers.fields.filter fun f => p f.key)
      = res.headers.fields.filter fun f => p f.key := by
  rcases res.framed_headers_cases with ⟨-, -, hheaders⟩ | ⟨-, -, hheaders⟩ | ⟨-, hheaders⟩
  · rw [hheaders]
  · rw [hheaders]
    exact Headers.filter_updateFields_key p hlength _ _
  · rw [hheaders, Headers.filter_erase_key p htype, Headers.filter_erase_key p hlength]

lemma names_eq : res.names = res.headers.fields.map Field.name := by
  simp [names, Headers.toList]

lemma framed_names :
    res.framed.names
      = (res.headers.fields.filter fun f => res.status.allowsBody
          || (f.key != Headers.key ResponseHeader.contentLength.name
            && f.key != Headers.key ResponseHeader.contentType.name)).map Field.name
        ++ newName res res.framed .contentLength := by
  have hthere := res.framed_contains ResponseHeader.contentLength.name
  rcases res.framed_headers_cases with
    ⟨hallows, hlength, hheaders⟩ | ⟨hallows, hlength, hheaders⟩ | ⟨hallows, hheaders⟩
  · simp [names_eq, hheaders, hallows, newName, hlength]
  · have hnone : res.headers.contains ResponseHeader.contentLength.name = false := hlength
    have hnew : res.framed.hasHeader .contentLength = true := by
      rw [hasHeader, hthere]
      simp [hallows]
    rw [names_eq, hheaders, Headers.map_name_set, hnone]
    simp [hallows, newName, hlength, hnew]
  · have hgone : res.framed.hasHeader .contentLength = false := by
      rw [hasHeader, hthere]
      simp [hallows]
    rw [names_eq, hheaders, Headers.erase, Headers.erase, List.filter_filter]
    simp [hallows, newName, hgone, Bool.and_comm]

/-! ### The finished response -/

lemma finish_find?_of_ne (hname : Headers.key name ≠ Headers.key ResponseHeader.server.name) :
    (res.finish settings req).headers.find? name
      = (res.conditional settings req).framed.headers.find? name := by
  rw [finish_headers]
  split
  · exact Headers.find?_set_of_ne hname
  · rfl

lemma finish_find?_of_not_mayTouch (hname : mayTouch (Headers.key name) = false) :
    (res.finish settings req).headers.find? name = res.headers.find? name := by
  obtain ⟨hlength, htype, hserver⟩ := mayTouch_eq_false_iff.1 hname
  rw [finish_find?_of_ne _ _ _ hserver, framed_find?_of_ne _ hlength htype, conditional_headers]

lemma finish_filter :
    ((res.finish settings req).headers.fields.filter fun f => !mayTouch f.key)
      = res.headers.fields.filter fun f => !mayTouch f.key := by
  have hframed := framed_filter (res.conditional settings req) (fun key => !mayTouch key)
    (by simp [mayTouch]) (by simp [mayTouch])
  rw [conditional_headers] at hframed
  rw [finish_headers]
  split
  · rw [← hframed]
    exact Headers.filter_updateFields_key (fun key => !mayTouch key) (by simp [mayTouch]) _ _
  · exact hframed

/-- Only a server with a name makes its header new. -/
lemma finish_names :
    (res.finish settings req).names
      = (res.conditional settings req).framed.names
        ++ newName res (res.finish settings req) .server := by
  have hserver : (res.conditional settings req).framed.headers.contains ResponseHeader.server.name
      = res.headers.contains ResponseHeader.server.name := by
    rw [Headers.contains, Headers.contains, framed_find?_of_ne _ (by simp) (by simp),
      conditional_headers]
  rw [names_eq, names_eq, newName, hasHeader, hasHeader, finish_headers]
  split
  · rw [Headers.map_name_set, hserver, Headers.contains_set]
    cases res.headers.contains ResponseHeader.server.name <;> simp
  · rw [hserver]
    cases res.headers.contains ResponseHeader.server.name <;> simp

/-- **Finishing keeps what it need not change**, whatever the response and the request are. -/
theorem finish_isKept : IsKept settings res (res.finish settings req) where
  others := by
    intro name hname
    exact finish_find?_of_not_mayTouch settings req res hname
  listed := finish_filter settings req res
  contentType := by
    rw [finish_find?_of_ne _ _ _ (by simp), framed_find?_contentType, conditional_headers,
      finish_status]
    cases (res.conditional settings req).status <;> simp [Status.allowsBody]
  contentLength := by
    intro hmade hsent
    rw [hasHeader, finish_contains_of_ne _ _ _ (by simp)] at hsent
    rw [finish_find?_of_ne _ _ _ (by simp)]
    rcases framed_headers_cases (res.conditional settings req) with
      ⟨-, -, hheaders⟩ | ⟨-, hnone, -⟩ | ⟨-, hheaders⟩
    · rw [hheaders, conditional_headers]
    · -- a length was told
      rw [hasHeader, conditional_headers] at hnone
      exact absurd hmade (by simp [hasHeader, hnone])
    · -- a length is still told
      rw [hheaders, Headers.contains_erase, Headers.contains_erase] at hsent
      exact absurd hsent (by simp)
  server := by
    intro hname
    rw [finish_headers, hname]
    exact (framed_find?_of_ne _ (by simp) (by simp)).trans (by rw [conditional_headers])
  placed := by
    have hlength : (res.conditional settings req).framed.hasHeader .contentLength
        = (res.finish settings req).hasHeader .contentLength :=
      (finish_contains_of_ne settings req res (by simp)).symm
    have hnew : newName (res.conditional settings req) (res.conditional settings req).framed
        .contentLength = newName res (res.finish settings req) .contentLength := by
      have hmade : (res.conditional settings req).hasHeader .contentLength
          = res.hasHeader .contentLength := by rw [hasHeader, hasHeader, conditional_headers]
      rw [newName, newName, hlength, hmade]
    rw [finish_names, framed_names, finish_status, conditional_headers, List.append_assoc, hnew]
  status := by
    rw [finish_status, conditional_status]
    split
    · next hspared =>
      obtain ⟨-, -, hserved, -⟩ := Request.isSpared_iff.2 hspared
      exact .inr ⟨hserved, rfl⟩
    · exact .inl rfl
  body := by
    rw [finish_body]
    split
    · exact .inl rfl
    · exact .inr rfl

/-! ### Finishing again -/

namespace IsFramed

variable {settings : Settings} {req : Request} {method : Method} {made sent : Response}
  (h : IsFramed settings method made sent)

include h

lemma framed_eq_self : sent.framed = sent := by
  rw [framed]
  split
  · next hallows =>
    obtain ⟨hcontent, hmodified⟩ := Status.allowsBody_eq_true_iff.1 hallows
    rw [withLength, if_pos (h.tellsLength hcontent hmodified)]
  · next hallows =>
    -- what would be taken away is not there
    rw [Bool.not_eq_true, Status.allowsBody_eq_false_iff] at hallows
    obtain ⟨hbody, hnone⟩ := h.withoutBody hallows
    rw [Response.withoutBody, ← hbody, eraseHeader, eraseHeader,
      Headers.erase_eq_self (hnone _ (.inl rfl)), Headers.erase_eq_self (hnone _ (.inr rfl))]

lemma answering_eq_self : sent.answering method = sent := by
  rw [answering]
  split
  · next hmethod => rw [← h.headWithoutBody hmethod]
  · rfl

lemma introduced_eq_self : sent.introduced settings = sent := by
  rw [introduced]
  split
  · next name hname => rw [setHeader, Headers.set_eq_self (h.namesServer name hname)]
  · rfl

end IsFramed

/-- A response that is well framed and has to be sent in full is left as it is. -/
lemma finish_eq_self {settings : Settings} {req : Request} {made sent : Response}
    (hframed : IsFramed settings req.method made sent) (hspared : ¬ req.IsSpared settings sent) :
    sent.finish settings req = sent := by
  have hconditional : sent.conditional settings req = sent :=
    if_neg fun h => hspared (Request.isSpared_iff.2 h)
  rw [finish, hconditional, hframed.framed_eq_self, hframed.answering_eq_self,
    hframed.introduced_eq_self]

/-- What the client was not spared the first time it is not spared afterwards. -/
lemma not_isSpared_finish : ¬ req.IsSpared settings (res.finish settings req) := by
  rintro ⟨hlooked, hreads, hserved, hheld⟩
  have hvalues (h : ResponseHeader) (hkey : mayTouch (Headers.key h.name) = false) :
      (res.finish settings req).headers.getAll h.name = res.headers.getAll h.name := by
    rw [Headers.getAll, Headers.getAll, finish_find?_of_not_mayTouch settings req res hkey]
  have htag := hvalues .etag (by simp [mayTouch])
  have hdate := hvalues .lastModified (by simp [mayTouch])
  simp only [Request.ListsTag, Request.HasLaterDate, Headers.HasFirstDate, htag, hdate] at hheld
  rw [finish_status, conditional_status] at hserved
  split at hserved
  · exact absurd hserved (by decide)
  · next hfirst => exact hfirst (Request.isSpared_iff.1 ⟨hlooked, hreads, hserved, hheld⟩)

/-- **Finishing twice is finishing once**, whatever the response, the request and the settings
are. -/
theorem finish_finish :
    (res.finish settings req).finish settings req = res.finish settings req :=
  finish_eq_self (isFramed_finish settings req res) (not_isSpared_finish settings req res)

end Response
end HttpMock
