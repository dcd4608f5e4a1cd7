/-
# What finishing does to a response

`Response.finish` is a row of small steps, and each of them touches the status, the body or a few
headers.  This file says what comes out of the whole row, so that nothing that follows has to look
at the steps again.

The first step alone chooses the status: `Response.finish_status` says that the finished response
has the status of the conditional one.  What else happens depends on that status and on the method:

* `Response.finish_body`: the body stays unless the status allows none or the method is HEAD;
* `Response.finish_headers`: the headers are those of the framed response, and the server's name.

What a lookup finds in the framed response is said by `Response.framed_contains` and
`Response.framed_getAll`; only a lookup of the server's name can find anything else in the end.
-/
import Mathlib.Tactic.Common
import HttpMock.Headers.Lemmas
import HttpMock.Response.Finish

namespace HttpMock

/-- The headers of a response that have a meaning of their own are different headers. -/
@[simp] lemma ResponseHeader.key_name_inj {h k : ResponseHeader} :
    Headers.key h.name = Headers.key k.name ↔ h = k := by
  constructor
  · cases h <;> cases k <;> decide +kernel
  · rintro rfl
    rfl

namespace Response

variable (settings : Settings) (req : Request) (res : Response)

/-! ### The single steps -/

@[simp] lemma conditional_headers : (res.conditional settings req).headers = res.headers := by
  rw [conditional]
  split <;> rfl

@[simp] lemma conditional_body : (res.conditional settings req).body = res.body := by
  rw [conditional]
  split <;> rfl

lemma conditional_status :
    (res.conditional settings req).status
      = if settings.conditionalRequests && req.holdsFresh res then .notModified
        else res.status := by
  rw [conditional]
  split <;> rfl

@[simp] lemma withLength_status : res.withLength.status = res.status := by
  rw [withLength]
  split <;> rfl

@[simp] lemma withLength_body : res.withLength.body = res.body := by
  rw [withLength]
  split <;> rfl

@[simp] lemma framed_status : res.framed.status = res.status := by
  rw [framed]
  split
  · exact res.withLength_status
  · rfl

lemma framed_body : res.framed.body = if res.status.allowsBody then res.body else .empty := by
  rw [framed]
  split
  · exact res.withLength_body
  · rfl

/-- Telling a length adds a header unless it is there already. -/
lemma withLength_contains (name : String) :
    res.withLength.headers.contains name
      = (Headers.key name == Headers.key ResponseHeader.contentLength.name
        || res.headers.contains name) := by
  rw [withLength]
  split
  · next hlength =>
    -- a length is there already, and is found under any spelling of its name
    by_cases hkey : Headers.key name = Headers.key ResponseHeader.contentLength.name
    · have hname : res.headers.contains name = true := by
        rw [← hlength, hasHeader, Headers.contains, Headers.contains, Headers.find?_congr _ hkey]
      rw [hname, Bool.or_true]
    · rw [beq_false_of_ne hkey, Bool.false_or]
  · exact Headers.contains_set ..

/-- A body that may be sent has a length that is told; nothing tells of any other. -/
lemma framed_contains (name : String) :
    res.framed.headers.contains name
      = if res.status.allowsBody then
          (Headers.key name == Headers.key ResponseHeader.contentLength.name
            || res.headers.contains name)
        else
          (Headers.key name != Headers.key ResponseHeader.contentType.name
            && (Headers.key name != Headers.key ResponseHeader.contentLength.name
              && res.headers.contains name)) := by
  rw [framed]
  split
  · exact res.withLength_contains name
  · simp only [withoutBody, eraseHeader, Headers.contains_erase]

/-- The length that is told is that of the body, unless one was told before. -/
lemma framed_getAll (name : String) :
    res.framed.headers.getAll name
      = if res.status.allowsBody then
          if Headers.key name = Headers.key ResponseHeader.contentLength.name
              ∧ res.hasHeader .contentLength = false then [Text.decimal res.body.size]
          else res.headers.getAll name
        else if Headers.key name = Headers.key ResponseHeader.contentType.name
            ∨ Headers.key name = Headers.key ResponseHeader.contentLength.name then []
        else res.headers.getAll name := by
  rw [framed]
  split
  · rw [withLength]
    split
    · next hlength => simp [hlength]
    · next hlength => simp [setHeader, Headers.getAll_set, hlength]
  · simp only [withoutBody, eraseHeader, Headers.getAll_erase, ite_or]

@[simp] lemma answering_status (method : Method) : (res.answering method).status = res.status := by
  rw [answering]
  split <;> rfl

@[simp] lemma answering_headers (method : Method) :
    (res.answering method).headers = res.headers := by
  rw [answering]
  split <;> rfl

lemma answering_body (method : Method) :
    (res.answering method).body = if method = .head then .empty else res.body := by
  rw [answering]
  split <;> rfl

@[simp] lemma introduced_status : (res.introduced settings).status = res.status := by
  rw [introduced]
  split <;> rfl

@[simp] lemma introduced_body : (res.introduced settings).body = res.body := by
  rw [introduced]
  split <;> rfl

lemma introduced_headers :
    (res.introduced settings).headers
      = match settings.serverName with
        | some name => res.headers.set ResponseHeader.server.name name
        | none => res.headers := by
  rw [introduced]
  cases settings.serverName <;> rfl

/-! ### The whole row -/

/-- Whether anything was modified is all that can change the status. -/
lemma finish_status :
    (res.finish settings req).status = (res.conditional settings req).status := by
  simp [finish]

/-- A body is sent where the status and the method allow one. -/
lemma finish_body :
    (res.finish settings req).body
      = if (res.conditional settings req).status.allowsBody ∧ req.method ≠ .head then res.body
        else .empty := by
  simp only [finish, introduced_body, answering_body, framed_body, conditional_body]
  by_cases hmethod : req.method = .head <;> simp [hmethod]

/-- The method has no say in the headers. -/
lemma finish_headers :
    (res.finish settings req).headers
      = match settings.serverName with
        | some name =>
          (res.conditional settings req).framed.headers.set ResponseHeader.server.name name
        | none => (res.conditional settings req).framed.headers := by
  simp [finish, introduced_headers]

lemma finish_getAll_server {settings : Settings} {name : String}
    (hname : settings.serverName = some name) :
    (res.finish settings req).headers.getAll ResponseHeader.server.name = [name] := by
  simp [finish_headers, hname, Headers.getAll_set]

lemma finish_getAll_of_ne {name : String}
    (hname : Headers.key name ≠ Headers.key ResponseHeader.server.name) :
    (res.finish settings req).headers.getAll name
      = (res.conditional settings req).framed.headers.getAll name := by
  rw [finish_headers]
  split
  · rw [Headers.getAll_set, if_neg hname]
  · rfl

lemma finish_contains_of_ne {name : String}
    (hname : Headers.key name ≠ Headers.key ResponseHeader.server.name) :
    (res.finish settings req).headers.contains name
      = (res.conditional settings req).framed.headers.contains name := by
  rw [finish_headers]
  split
  · rw [Headers.contains_set, beq_false_of_ne hname, Bool.false_or]
  · rfl

end Response
end HttpMock
