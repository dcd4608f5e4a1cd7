/-
# Every answer is well framed

A harness answers a request with the page of a fault, with a page of the router, or by a handler,
which may be any function from requests to responses.  Whoever made the response, it is finished in
the same way before it is sent; so what a client can rely on need not be asked of the handlers.

`Response.IsFramed` says what a client can rely on: no body and no word of one where the status
allows none, the true length everywhere else, no body in answer to a HEAD request, and the name of
the server.  The main results are

* `Harness.perform_eq_finish`: an answer is the finished form of the response as it was made;
* `Harness.perform_isFramed`: every answer of every harness is well framed.
-/
import HttpMock.Harness
import HttpMock.Proofs.Finish

namespace HttpMock

/-! ### From the response that was made to the answer -/

namespace Router

/-- Routing binds parameters and leaves the request alone otherwise. -/
lemma exists_dispatch_request (r : Router) (req : Request) :
    ∃ params, (r.dispatch req).request = { req with params := params } := by
  rw [dispatch]
  split
  · next params _ => exact ⟨params, rfl⟩
  · refine ⟨req.params, ?_⟩
    split <;> rfl

end Router

namespace Harness

variable (h : Harness) (req : Request)

@[simp] lemma hosted_method (settings : Settings) :
    (hosted settings req).method = req.method := by
  rw [hosted]
  split <;> rfl

/-- The response to a request as it was made, by the router or for a fault, and not yet
finished. -/
def unfinished : Response :=
  let req := hosted h.settings req
  match req.check h.settings with
  | .ok _ => (h.router.dispatch req).response
  | .error fault => .ofError fault.status

/-- Finishing does not look at the parameters that routing binds. -/
lemma handle_response :
    (h.handle req).response = (h.router.dispatch req).response.finish h.settings req := by
  obtain ⟨params, hparams⟩ := h.router.exists_dispatch_request req
  simp only [handle, hparams]
  rfl

/-- Both ways of answering end in the same row of steps. -/
theorem perform_eq_finish :
    h.perform req = (h.unfinished req).finish h.settings (hosted h.settings req) := by
  rw [perform, unfinished]
  cases (hosted h.settings req).check h.settings with
  | ok => exact h.handle_response _
  | error fault => rfl

end Harness

/-! ### Framing -/

/-- What a client can rely on in the answer `sent` to a request of a method, where `made` is the
response before it was finished. -/
structure Response.IsFramed (settings : Settings) (method : Method) (made sent : Response) :
    Prop where
  /-- A status without a body comes without one, and without the headers that tell of one, in any
  spelling. -/
  withoutBody : sent.status = .noContent ∨ sent.status = .notModified →
    sent.body = .empty ∧ ∀ name,
      Headers.key name = Headers.key ResponseHeader.contentLength.name
        ∨ Headers.key name = Headers.key ResponseHeader.contentType.name →
      sent.headers.contains name = false
  /-- Every other answer tells a length. -/
  tellsLength : sent.status ≠ .noContent → sent.status ≠ .notModified →
    sent.hasHeader .contentLength = true
  /-- A length that was not told before is that of the body, which is sent as it was made unless
  the request is a HEAD. -/
  tellsTrueLength : sent.status ≠ .noContent → sent.status ≠ .notModified →
    made.hasHeader .contentLength = false →
      sent.headers.getAll ResponseHeader.contentLength.name = [Text.decimal made.body.size]
        ∧ (method ≠ .head → sent.body = made.body)
  /-- A HEAD request gets no body. -/
  headWithoutBody : method = .head → sent.body = .empty
  /-- The server goes by its one name. -/
  namesServer : ∀ name, settings.serverName = some name →
    sent.headers.getAll ResponseHeader.server.name = [name]

namespace Status

lemma allowsBody_eq_false_iff {s : Status} :
    s.allowsBody = false ↔ s = .noContent ∨ s = .notModified := by
  cases s <;> decide

lemma allowsBody_eq_true_iff {s : Status} :
    s.allowsBody = true ↔ s ≠ .noContent ∧ s ≠ .notModified := by
  cases s <;> decide

end Status

namespace Response

variable (settings : Settings) (req : Request) (res : Response)

/-- Finishing frames any response. -/
lemma isFramed_finish : IsFramed settings req.method res (res.finish settings req) where
  withoutBody := by
    intro hstatus
    rw [finish_status, ← Status.allowsBody_eq_false_iff] at hstatus
    refine ⟨by simp [finish_body, hstatus], ?_⟩
    intro name hname
    have hserver : Headers.key name ≠ Headers.key ResponseHeader.server.name := by
      rcases hname with hname | hname <;> simp [hname]
    rw [finish_contains_of_ne _ _ _ hserver, framed_contains, hstatus]
    rcases hname with hname | hname <;> simp [hname]
  tellsLength := by
    intro hcontent hmodified
    rw [finish_status] at hcontent hmodified
    have hstatus := Status.allowsBody_eq_true_iff.2 ⟨hcontent, hmodified⟩
    rw [hasHeader, finish_contains_of_ne _ _ _ (by simp), framed_contains, hstatus]
    simp
  tellsTrueLength := by
    intro hcontent hmodified hmade
    rw [finish_status] at hcontent hmodified
    have hstatus := Status.allowsBody_eq_true_iff.2 ⟨hcontent, hmodified⟩
    have hlength : (res.conditional settings req).hasHeader .contentLength = false := by
      rw [hasHeader, conditional_headers]
      exact hmade
    constructor
    · rw [finish_getAll_of_ne _ _ _ (by simp), framed_getAll, hstatus, hlength]
      simp
    · intro hmethod
      simp [finish_body, hstatus, hmethod]
  headWithoutBody := by
    intro hmethod
    simp [finish_body, hmethod]
  namesServer := by
    intro name hname
    exact finish_getAll_server req res hname

end Response

namespace Harness

/-- **Every answer is well framed**, on whatever way it came about. -/
theorem perform_isFramed (h : Harness) (req : Request) :
    Response.IsFramed h.settings req.method (h.unfinished req) (h.perform req) := by
  have hframed := Response.isFramed_finish h.settings (hosted h.settings req) (h.unfinished req)
  rw [← perform_eq_finish, hosted_method] at hframed
  exact hframed

end Harness
end HttpMock
