/-
# The page for a wrong method tells the truth

A request that no route serves is answered with a page: that nothing was found, or that the path
allows other methods only, which it calls.  This file compares the page that one request gets with
what becomes of the other requests for the same target.

* `Router.runsHandler_iff_of_uri`: which methods are served for a target;
* `Router.dispatch_allows_truly`: the methods that are called are those of the routes whose pattern
  matches, and just these are served, with HEAD wherever GET is.
-/
import HttpMock.Proofs.Routing

namespace HttpMock
namespace Router

/-! ### The methods of a target -/

variable {r : Router} {req other : Request} {path : String} {routes : List Route} {m : Method}

lemma mem_methodsAt :
    m ∈ methodsAt path routes
      ↔ ∃ route ∈ routes, route.pattern.Matches path ∧ route.method = m := by
  simp [methodsAt, Pattern.Matches, and_assoc]

lemma methodsAt_eq_nil_iff :
    methodsAt path routes = [] ↔ ∀ route ∈ routes, ¬ route.pattern.Matches path := by
  simp [methodsAt, Pattern.Matches]

/-- A method is served for a target exactly if a route of that method matches the path, or if the
method is HEAD and a route for GET matches it. -/
lemma runsHandler_iff_of_uri (huri : other.uri = req.uri) :
    r.RunsHandler other ↔ other.method ∈ methodsAt req.path r.routes
      ∨ (other.method = .head ∧ .get ∈ methodsAt req.path r.routes) := by
  have hpath : other.path = req.path := by rw [Request.path, huri, ← Request.path]
  rw [runsHandler_iff, mem_methodsAt, mem_methodsAt]
  constructor
  · rintro ⟨route, hroute, hmatches, hanswers⟩
    rw [hpath] at hmatches
    rcases Method.answers_iff.1 hanswers with hsame | ⟨hhead, hget⟩
    · exact .inl ⟨route, hroute, hmatches, hsame⟩
    · exact .inr ⟨hhead, route, hroute, hmatches, hget⟩
  · rintro (⟨route, hroute, hmatches, hsame⟩ | ⟨hhead, route, hroute, hmatches, hget⟩)
    · exact ⟨route, hroute, hpath ▸ hmatches, Method.answers_iff.2 (.inl hsame)⟩
    · exact ⟨route, hroute, hpath ▸ hmatches, Method.answers_iff.2 (.inr ⟨hhead, hget⟩)⟩

/-- **The page for a request without a handler tells the truth.**  It says that nothing was found
exactly if no pattern matches the path.  Otherwise it calls a roll of the methods of the routes
whose pattern matches, and a request of any method for the same target is given to a handler exactly
if the method is called, or if it is HEAD and GET is called. -/
theorem dispatch_allows_truly (r : Router) (req : Request) (hnone : ¬ r.RunsHandler req) :
    ((r.dispatch req).response.status = .notFound
        ↔ ∀ route ∈ r.routes, ¬ route.pattern.Matches req.path)
      ∧ ∃ allowed, IsRoll (methodsAt req.path r.routes) allowed
        ∧ ((∃ route ∈ r.routes, route.pattern.Matches req.path) →
          (r.dispatch req).response.status = .methodNotAllowed
            ∧ (r.dispatch req).response.headers.getAll "Allow"
              = [", ".intercalate (allowed.map Method.name)])
        ∧ ∀ other : Request, other.uri = req.uri →
          (r.RunsHandler other ↔ other.method ∈ allowed
            ∨ (other.method = .head ∧ .get ∈ allowed)) := by
  have hroll := isRoll_allowedMethods req.path r.routes
  have hpage : (r.dispatch req).IsUnserved req (allowedMethods req.path r.routes) := by
    apply isUnserved_dispatch
    intro route hroute hserves
    exact hnone (runsHandler_iff.2 ⟨route, hroute, hserves⟩)
  have hempty : allowedMethods req.path r.routes = []
      ↔ ∀ route ∈ r.routes, ¬ route.pattern.Matches req.path := by
    rw [← methodsAt_eq_nil_iff, List.eq_nil_iff_forall_not_mem, List.eq_nil_iff_forall_not_mem]
    exact forall_congr' fun m => not_congr (hroll.mem_iff m)
  refine ⟨?_, allowedMethods req.path r.routes, hroll, ?_, ?_⟩
  · rw [hpage.status, ← hempty]
    split <;> simp_all
  · rintro ⟨route, hroute, hmatches⟩
    have hsome : allowedMethods req.path r.routes ≠ [] := fun h => hempty.1 h route hroute hmatches
    exact ⟨hpage.status.trans (if_neg hsome), hpage.allow.trans (if_neg hsome)⟩
  · intro other huri
    rw [runsHandler_iff_of_uri huri, hroll.mem_iff, hroll.mem_iff]

/-- A method is called once, though two patterns match, and HEAD is served without being called. -/
theorem dispatch_allows_truly_persons :
    let one := "/persons/\x7bid\x7d"
    let r := (((empty.get one fun _ => .ok).put one fun _ => .ok).get
      "/persons/new" fun _ => .ok).post "/persons" fun _ => .ok
    let req (method : Method) : Request := .new method "/persons/new?draft=1"
    (r.dispatch (req .delete)).response.headers.getAll "Allow" = ["GET, PUT"]
      ∧ r.RunsHandler (req .head) ∧ r.RunsHandler (req .put) ∧ ¬ r.RunsHandler (req .post) := by
  intro one r req
  have hnone : ¬ r.RunsHandler (req .delete) := by
    rw [runsHandler_iff]
    decide +kernel
  have hmethods : methodsAt (req .delete).path r.routes = [.get, .put, .get] := by decide +kernel
  obtain ⟨-, allowed, hroll, hpage, hserved⟩ := dispatch_allows_truly r (req .delete) hnone
  rw [hmethods] at hroll
  have htwo : IsRoll [Method.get, .put, .get] [.get, .put] := isRoll_foldl [Method.get, .put, .get]
  obtain rfl := hroll.eq htwo
  refine ⟨(hpage (by decide +kernel)).2, ?_, ?_, ?_⟩
  · exact (hserved (req .head) rfl).2 (by decide)
  · exact (hserved (req .put) rfl).2 (by decide)
  · rw [hserved (req .post) rfl]
    decide

end Router
end HttpMock
