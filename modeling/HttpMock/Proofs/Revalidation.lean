/-
# Revalidation

A client that was given some content with a tag or with the date of its last modification can ask
later whether its copy is still good.  It sends the tag back in If-None-Match, or a date in
If-Modified-Since, and hopes to be told that nothing was modified.  This file says when it is told
so, for any router and for any handler that serves the content with status 200.

* `Harness.handle_status_of_served`: the conditions of the request decide, and nothing else does;
* `Harness.handle_own_tag_iff`: a tag that is sent back is recognised, unless a comma in it misleads
  the reader of the list;
* `Harness.handle_since`: dates are compared to the second, and content without a date that can be
  written is sent again.
-/
import HttpMock.Proofs.Answer
import HttpMock.Proofs.EntityTags

namespace HttpMock

namespace Harness

/-- The harness of one page, which is served as it is. -/
def serving (page : Response) : Harness := ofRouter (Router.empty.get "/" fun _ => page)

variable {h : Harness} {req : Request}

/-- Where conditions are looked at, a plain success is cut down exactly if they hold. -/
theorem handle_status_of_served (hon : h.settings.conditionalRequests = true)
    (hread : req.method = .get ∨ req.method = .head)
    (hserved : (h.router.dispatch req).response.status = .ok) :
    (h.handle req).response.status
      = if req.conditionHolds (h.router.dispatch req).response then .notModified else .ok := by
  have hsafe : req.method.isSafeRead = true := by
    rcases hread with hread | hread <;> rw [hread] <;> rfl
  rw [handle_response, Response.finish_status, Response.conditional_status]
  simp [Request.holdsFresh, hon, hsafe, hserved]

end Harness

/-! ### By tag -/

namespace Request

lemma conditionHolds_of_tags {req : Request} {res : Response} {list tag : String}
    (hlist : req.header? .ifNoneMatch = some list) (htag : res.header? .etag = some tag) :
    req.conditionHolds res = EntityTag.isListed list tag := by
  simp only [conditionHolds, hlist, htag]

end Request

namespace Harness

/-- **A client that sends back the tag of what it holds** is told that nothing was modified exactly
if no comma cuts the tag, or if a star stands alone between two commas of it. -/
theorem handle_own_tag_iff (h : Harness) (req : Request) (tag : EntityTag)
    (hon : h.settings.conditionalRequests = true)
    (hread : req.method = .get ∨ req.method = .head)
    (hlist : req.headers.getAll RequestHeader.ifNoneMatch.name = [tag.text])
    (hserved : (h.router.dispatch req).response.status = .ok)
    (htagged : (h.router.dispatch req).response.headers.getAll ResponseHeader.etag.name
      = [tag.text]) :
    (h.handle req).response.status = .notModified ↔ ',' ∉ tag.text.toList
      ∨ ∃ piece, Text.trimChars piece = ['*'] ∧ (',' :: piece ++ [',']) <:+: tag.text.toList := by
  have hlist : req.header? .ifNoneMatch = some tag.text := by
    rw [Request.header?, Headers.get?_eq_head?_getAll, hlist]
    rfl
  have htagged : (h.router.dispatch req).response.header? .etag = some tag.text := by
    rw [Response.header?, Headers.get?_eq_head?_getAll, htagged]
    rfl
  rw [handle_status_of_served hon hread hserved, Request.conditionHolds_of_tags hlist htagged,
    ← tag.isListed_text_text_iff]
  simp

/-- A tag with a single comma is not recognised when it is sent back. -/
theorem handle_own_tag_comma :
    ((serving (Response.ok.withEtag "\"a,b\"")).handle
        ((Request.new .get "/").setHeader .ifNoneMatch "\"a,b\"")).response.status
      ≠ .notModified := by
  obtain ⟨tag, htag⟩ : ∃ tag : EntityTag, tag.text = "\"a,b\"" :=
    ⟨⟨false, ['a', ',', 'b'], by simp [EntityTag.isTagChar]⟩, by decide +kernel⟩
  have hiff := handle_own_tag_iff (serving (Response.ok.withEtag "\"a,b\""))
    ((Request.new .get "/").setHeader .ifNoneMatch "\"a,b\"") tag rfl (.inl rfl)
    (by rw [htag]; decide +kernel) (by decide +kernel) (by rw [htag]; decide +kernel)
  rw [Ne, hiff, htag]
  rintro (hfree | ⟨piece, -, hinfix⟩)
  · exact hfree (by decide +kernel)
  · -- two commas do not fit into a text with one
    have hcount := hinfix.sublist.count_le ','
    have hone : "\"a,b\"".toList.count ',' = 1 := by decide +kernel
    rw [hone, List.count_append, List.count_cons_self, List.count_singleton_self] at hcount
    omega

end Harness

/-! ### By date -/

namespace HttpDate

/-- A date that was written is read back as the second of its instant. -/
lemma read_write {millis : Nat} {text : String} (hwrite : write millis = .ok text) :
    read text = .ok (truncate millis) := by
  simpa using read_of_write hwrite (List.forall_mem_nil _) (List.forall_mem_nil _)

lemma exists_write {millis : Nat} (hlt : millis < limit) : ∃ text, write millis = .ok text :=
  ⟨_, if_neg (Nat.not_le.2 hlt)⟩

lemma write_eq_error {millis : Nat} (hle : limit ≤ millis) :
    write millis = .error (.outOfRange millis) :=
  if_pos hle

end HttpDate

namespace Headers

lemma readDate?_eq (h : Headers) (name : String) :
    h.readDate? name = (h.get? name).bind fun text => (HttpDate.read text).toOption := by
  rw [readDate?, getDate?]
  cases h.get? name with
  | none => rfl
  | some text =>
    simp only [Option.map_some, Option.bind_some]
    cases HttpDate.read text <;> rfl

end Headers

namespace Response

/-- An instant that has no HTTP-date leaves the header as it was; any other is read back to the
second. -/
lemma readDate?_withLastModified (res : Response) (millis : Nat) :
    (res.withLastModified millis).headers.readDate? ResponseHeader.lastModified.name
      = if millis < HttpDate.limit then some (HttpDate.truncate millis)
        else res.headers.readDate? ResponseHeader.lastModified.name := by
  split
  · next hlt =>
    obtain ⟨text, htext⟩ := HttpDate.exists_write hlt
    simp [withLastModified, Headers.setDate_of_write htext, Headers.readDate?_eq,
      Headers.get?_eq_head?_getAll, Headers.getAll_set, HttpDate.read_write htext, Except.toOption]
  · next hlt =>
    rw [withLastModified,
      Headers.setDate_of_write_eq_error (HttpDate.write_eq_error (Nat.not_lt.1 hlt))]

end Response

namespace Request

lemma conditionHolds_of_dates {req : Request} {res : Response}
    (hlist : req.header? .ifNoneMatch = none) {since : Nat}
    (hsince : req.headers.readDate? RequestHeader.ifModifiedSince.name = some since) :
    req.conditionHolds res = true ↔
      ∃ modified, res.headers.readDate? ResponseHeader.lastModified.name = some modified
        ∧ modified ≤ since := by
  simp only [conditionHolds, hlist, hsince]
  cases res.headers.readDate? ResponseHeader.lastModified.name <;> simp

/-- What is read from a date of a request is the start of a second. -/
lemma exists_readDate? {req : Request} {text : String} {since : Nat}
    (hsince : req.header? .ifModifiedSince = some text)
    (htext : HttpDate.write since = .ok text
      ∨ ∃ second, HttpDate.read text = .ok second ∧ second / 1000 = since / 1000) :
    req.headers.readDate? RequestHeader.ifModifiedSince.name
      = some (HttpDate.truncate since) := by
  have hread : HttpDate.read text = .ok (HttpDate.truncate since) := by
    rcases htext with hwrite | ⟨second, hread, hsecond⟩
    · exact HttpDate.read_write hwrite
    · -- no form of a date tells a part of a second
      obtain ⟨stamp, -, -, hstamp, -⟩ := HttpDate.exists_of_read hread
      have hwhole : second / 1000 * 1000 = second := by omega
      rw [hread, HttpDate.truncate_eq, ← hsecond, hwhole]
  have hsince : req.headers.get? RequestHeader.ifModifiedSince.name = some text := hsince
  rw [Headers.readDate?_eq, hsince, Option.bind_some, hread]
  rfl

end Request

namespace Harness

/-- **A client that sends a date** is told that nothing was modified exactly if the content has a
date that can be written and was not modified after the second of the date that was sent. -/
theorem handle_since (h : Harness) (req : Request) (base : Response) (text : String)
    (modified since : Nat) (hon : h.settings.conditionalRequests = true)
    (hread : req.method = .get ∨ req.method = .head)
    (hlist : req.header? .ifNoneMatch = none)
    (hsince : req.header? .ifModifiedSince = some text)
    (htext : HttpDate.write since = .ok text
      ∨ ∃ second, HttpDate.read text = .ok second ∧ second / 1000 = since / 1000)
    (hserved : (h.router.dispatch req).response.status = .ok)
    (hbase : base.header? .lastModified = none)
    (hmodified : (h.router.dispatch req).response.header? .lastModified
      = (base.withLastModified modified).header? .lastModified) :
    (h.handle req).response.status
      = if modified < HttpDate.limit ∧ modified / 1000 ≤ since / 1000 then .notModified
        else .ok := by
  have hbase : base.headers.readDate? ResponseHeader.lastModified.name = none := by
    have hbase : base.headers.get? ResponseHeader.lastModified.name = none := hbase
    rw [Headers.readDate?_eq, hbase, Option.bind_none]
  have hdate : (h.router.dispatch req).response.headers.readDate? ResponseHeader.lastModified.name
      = if modified < HttpDate.limit then some (HttpDate.truncate modified) else none := by
    rw [← hbase, ← Response.readDate?_withLastModified, Headers.readDate?_eq, Headers.readDate?_eq]
    exact congrArg (Option.bind · _) hmodified
  have hholds : req.conditionHolds (h.router.dispatch req).response = true
      ↔ modified < HttpDate.limit ∧ modified / 1000 ≤ since / 1000 := by
    rw [Request.conditionHolds_of_dates hlist (Request.exists_readDate? hsince htext), hdate]
    simp only [HttpDate.truncate_eq]
    split
    · next hlt =>
      simp only [Option.some.injEq, exists_eq_left', hlt, true_and]
      omega
    · next hle => simp [hle]
  rw [handle_status_of_served hon hread hserved]
  simp only [hholds]

/-- A page that was modified within a second is not sent to a client that names that second in the
older form of a date. -/
theorem handle_since_same_second :
    ((serving (Response.ok.withLastModified 1577836800999)).handle
        ((Request.new .head "/").setHeader .ifModifiedSince
          " Wednesday, 01-Jan-20 00:00:00 GMT")).response.status
      = .notModified :=
  (handle_since _ _ .ok " Wednesday, 01-Jan-20 00:00:00 GMT" 1577836800999 1577836800000 rfl
    (.inr rfl) (by decide +kernel) (by decide +kernel)
    (.inr ⟨1577836800000, by decide +kernel, rfl⟩) (by decide +kernel) (by decide +kernel)
    (by decide +kernel)).trans (by decide)

end Harness
end HttpMock
