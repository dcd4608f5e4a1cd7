/-
# A HEAD request is answered as a GET request

A HEAD request asks for the headers that a GET request would get, without the body.  Every part of
a harness looks at the method: the check, the router, the conditions and the framing.  This file
follows a request and its twin of the other method side by side through all of them, for a router
whose routes do not single out HEAD requests and whose handlers do not look at the method.

* `Request.check_withMethod`: both are let through, or both are refused with the same status;
* `Router.dispatch_withMethod`: both are routed to the same handler, or to the same page;
* `Response.conditional_withMethod`: both find the content modified, or both do not.

The main result is `Harness.perform_head_eq_get`: both get the same status and the same headers, and
the HEAD request gets no body.
-/
import HttpMock.Proofs.Answer
import HttpMock.Proofs.Routing

namespace HttpMock

namespace Request

/-- The same request with another method. -/
def withMethod (req : Request) (method : Method) : Request := { req with method := method }

variable (req : Request) (method : Method)

@[simp] lemma withMethod_method : (req.withMethod method).method = method := rfl

@[simp] lemma withMethod_version : (req.withMethod method).version = req.version := rfl

@[simp] lemma withMethod_body : (req.withMethod method).body = req.body := rfl

@[simp] lemma withMethod_path : (req.withMethod method).path = req.path := rfl

@[simp] lemma withMethod_hasHeader (header : RequestHeader) :
    (req.withMethod method).hasHeader header = req.hasHeader header := rfl

@[simp] lemma withMethod_hasBody : (req.withMethod method).hasBody = req.hasBody := rfl

@[simp] lemma withMethod_checkLength : (req.withMethod method).checkLength = req.checkLength := rfl

@[simp] lemma withMethod_conditionHolds (res : Response) :
    (req.withMethod method).conditionHolds res = req.conditionHolds res := rfl

end Request

/-- A handler that gives the same answer to any two requests that differ only in the method. -/
def Handler.IgnoresMethod (handler : Handler) : Prop :=
  ∀ (req : Request) (method : Method), handler (req.withMethod method) = handler req

variable {m n : Method}

/-! ### The check -/

namespace Request

/-- Methods that are alike in whether they only read are alike to the check, save for the name that
a fault tells. -/
lemma check_withMethod (settings : Settings) (req : Request) (hread : m.isSafeRead = n.isSafeRead) :
    ((req.withMethod m).check settings = .ok () ∧ (req.withMethod n).check settings = .ok ())
      ∨ ∃ fault other : Fault, (req.withMethod m).check settings = .error fault
        ∧ (req.withMethod n).check settings = .error other ∧ fault.status = other.status := by
  simp only [check_eq, withMethod_method, withMethod_version, withMethod_body,
    withMethod_hasHeader, withMethod_hasBody, withMethod_checkLength, hread]
  -- the row of tests is the same for both, so both fail at the same one or pass them all
  by_cases hversion : req.version.isSupported = false
  · exact .inr ⟨_, _, if_pos hversion, if_pos hversion, rfl⟩
  simp only [hversion]
  by_cases hhost : req.hasHeader .host = false
  · exact .inr ⟨_, _, if_pos hhost, if_pos hhost, rfl⟩
  simp only [hhost]
  cases req.checkLength with
  | error fault => exact .inr ⟨_, _, rfl, rfl, rfl⟩
  | ok =>
    by_cases hbody : n.isSafeRead = true ∧ req.hasBody = true
    · exact .inr ⟨_, _, if_pos hbody, if_pos hbody, rfl⟩
    · simp only [hbody, if_false]
      by_cases hsize : settings.maxBodySize < req.body.size
      · exact .inr ⟨_, _, if_pos hsize, if_pos hsize, rfl⟩
      · exact .inl ⟨if_neg hsize, if_neg hsize⟩

end Request

/-! ### The router -/

namespace Router

lemma answers_head_eq_get {route : Method} (hroute : route ≠ .head) :
    route.answers .head = route.answers .get := by
  revert hroute
  cases route <;> decide

variable {routes : List Route}

lemma findRoute?_withMethod (req : Request) (hroutes : ∀ route ∈ routes, route.method ≠ .head) :
    findRoute? (req.withMethod .head) routes = findRoute? (req.withMethod .get) routes := by
  induction routes with
  | nil => rfl
  | cons route routes ih =>
    -- a route for GET answers both methods, and any other route answers neither
    have hroute := answers_head_eq_get (hroutes route List.mem_cons_self)
    have ih := ih fun other hother => hroutes other (List.mem_cons_of_mem _ hother)
    simp only [findRoute?_cons, Request.withMethod_method, Request.withMethod_path, hroute, ih]

/-- The router gives a request and its twin the same answer. -/
lemma dispatch_withMethod (r : Router) (req : Request)
    (hroutes : ∀ route ∈ r.routes, route.method ≠ .head)
    (hhandlers : ∀ route ∈ r.routes, route.handler.IgnoresMethod) :
    (r.dispatch (req.withMethod .head)).response = (r.dispatch (req.withMethod .get)).response := by
  rw [dispatch, dispatch, findRoute?_withMethod req hroutes]
  cases hroute : findRoute? (req.withMethod .get) r.routes with
  | some found =>
    obtain ⟨route, params⟩ := found
    have hblind := hhandlers route (mem_of_findRoute? hroute)
    exact (hblind { req with params := params } .head).trans
      (hblind { req with params := params } .get).symm
  | none =>
    -- no handler is asked; which page is shown depends on the path alone
    simp only [Request.withMethod_path]
    cases allowedMethods req.path r.routes <;> rfl

end Router

/-! ### The conditions -/

namespace Response

/-- Methods that are alike in whether they only read are alike to the conditions. -/
lemma conditional_withMethod (settings : Settings) (req : Request) (res : Response)
    (hread : m.isSafeRead = n.isSafeRead) :
    res.conditional settings (req.withMethod m) = res.conditional settings (req.withMethod n) := by
  have hfresh : (req.withMethod m).holdsFresh res = (req.withMethod n).holdsFresh res := by
    simp only [Request.holdsFresh, Request.withMethod_method, Request.withMethod_conditionHolds,
      hread]
  rw [conditional, conditional, hfresh]

end Response

/-! ### The answer -/

namespace Harness

lemma hosted_withMethod (settings : Settings) (req : Request) (method : Method) :
    hosted settings (req.withMethod method) = (hosted settings req).withMethod method := by
  rw [hosted, hosted, Request.withMethod_hasHeader]
  split <;> rfl

/-- The response to a request and to its twin is made in the same way. -/
lemma unfinished_withMethod (h : Harness) (req : Request)
    (hroutes : ∀ route ∈ h.router.routes, route.method ≠ .head)
    (hhandlers : ∀ route ∈ h.router.routes, route.handler.IgnoresMethod) :
    h.unfinished (req.withMethod .head) = h.unfinished (req.withMethod .get) := by
  have hread : Method.isSafeRead .head = Method.isSafeRead .get := rfl
  simp only [unfinished, hosted_withMethod]
  rcases Request.check_withMethod h.settings (hosted h.settings req) hread with
    ⟨hhead, hget⟩ | ⟨fault, other, hhead, hget, hstatus⟩
  · rw [hhead, hget]
    exact h.router.dispatch_withMethod _ hroutes hhandlers
  · -- the pages of two faults are the same where the statuses are
    rw [hhead, hget]
    simp only [hstatus]

/-- **A HEAD request is answered as the GET request it stands for**, except that it gets no body. -/
theorem perform_head_eq_get (h : Harness) (req : Request)
    (hroutes : ∀ route ∈ h.router.routes, route.method ≠ .head)
    (hhandlers : ∀ route ∈ h.router.routes, route.handler.IgnoresMethod) :
    (h.perform (req.withMethod .head)).status = (h.perform (req.withMethod .get)).status
      ∧ (h.perform (req.withMethod .head)).headers = (h.perform (req.withMethod .get)).headers
      ∧ (h.perform (req.withMethod .head)).body = .empty := by
  have hread : Method.isSafeRead .head = Method.isSafeRead .get := rfl
  have hmade := unfinished_withMethod h req hroutes hhandlers
  have hconditional := Response.conditional_withMethod h.settings (hosted h.settings req)
    (h.unfinished (req.withMethod .get)) hread
  rw [perform_eq_finish, perform_eq_finish, hmade, hosted_withMethod, hosted_withMethod]
  refine ⟨?_, ?_, ?_⟩
  · rw [Response.finish_status, Response.finish_status, hconditional]
  · rw [Response.finish_headers, Response.finish_headers, hconditional]
  · simp [Response.finish_body]

/-- The harness of a page for each person, and of a page to which persons can be posted. -/
def persons : Harness :=
  ofRouter ((Router.empty.get "/persons/\x7bid\x7d" fun req =>
      Response.ok.withBody "text/plain" ((req.param? "id").getD "").toUTF8).post "/persons"
    fun _ => .ofStatus .created)

/-- A page that depends on the path and a route of another method do not disturb this. -/
theorem perform_head_eq_get_persons :
    (persons.perform ((Request.new .get "/persons/7").withMethod .head)).headers
        = (persons.perform ((Request.new .get "/persons/7").withMethod .get)).headers
      ∧ (persons.perform ((Request.new .get "/persons/7").withMethod .head)).body = .empty := by
  have hroutes : ∀ route ∈ persons.router.routes, route.method ≠ .head := by
    simp [persons, ofRouter, Router.get, Router.post, Router.route, Router.empty]
  have hhandlers : ∀ route ∈ persons.router.routes, route.handler.IgnoresMethod := by
    simp only [persons, ofRouter, Router.get, Router.post, Router.route, Router.empty,
      List.nil_append, List.singleton_append, List.forall_mem_cons]
    exact ⟨fun _ _ => rfl, fun _ _ => rfl, List.forall_mem_nil _⟩
  exact (perform_head_eq_get persons (Request.new .get "/persons/7") hroutes hhandlers).2

end Harness
end HttpMock
