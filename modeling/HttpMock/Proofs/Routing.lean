/-
# The first route that serves a request answers it

A route serves a request if its pattern matches the path and its method is that of the request, or
GET where the request is a HEAD.  A router hands a request to the first of its routes that serves
it, with the parameters of the path bound.  Where no route does, it leaves the request alone and
shows a page, which calls the methods of the routes whose pattern matches.  Routers compose in this:
the routes of one come into play only for what those before them leave unserved.

* `Router.findRoute?_eq_some_iff` and `Router.findRoute?_eq_none_iff`: which route is found;
* `Router.isRoll_allowedMethods`: the methods that are called are a roll;
* `Router.dispatch_congr`: routes whose pattern does not match are not looked at;
* `Router.dispatch_append`: what two lists of routes make of a request, one after the other.
-/
import HttpMock.Proofs.Rolls
import HttpMock.Route.Router

namespace HttpMock

/-! ### Serving -/

/-- The pattern matches a path, with some bindings. -/
def Pattern.Matches (p : Pattern) (path : String) : Prop := (p.match? path).isSome = true

instance (p : Pattern) (path : String) : Decidable (p.Matches path) :=
  inferInstanceAs (Decidable ((p.match? path).isSome = true))

/-- The route answers requests of this method for this path. -/
def Route.Serves (route : Route) (req : Request) : Prop :=
  route.pattern.Matches req.path ∧ route.method.answers req.method = true

instance (route : Route) (req : Request) : Decidable (route.Serves req) :=
  inferInstanceAs (Decidable (route.pattern.Matches req.path ∧ _ = true))

/-- A request is left as it came, and is answered with a page: that nothing was found, or, where
some methods are allowed for its path, that its own is none of them, and which they are. -/
structure Exchange.IsUnserved (x : Exchange) (req : Request) (allowed : List Method) : Prop where
  request : x.request = req
  status : x.response.status = if allowed = [] then .notFound else .methodNotAllowed
  /-- The methods are called in one value. -/
  allow : x.response.headers.getAll "Allow"
    = if allowed = [] then [] else [", ".intercalate (allowed.map Method.name)]
  /-- There are no other headers but the kind of the page. -/
  listed : x.response.headers.fields
    = .new ResponseHeader.contentType.name ["text/plain"]
      :: if allowed = [] then [] else [.new "Allow" [", ".intercalate (allowed.map Method.name)]]
  body : x.response.body = x.response.status.render.toUTF8

namespace Method

lemma answers_iff {route request : Method} :
    route.answers request = true ↔ route = request ∨ (request = .head ∧ route = .get) := by
  simp [answers]

end Method

namespace Router

variable {r s : Router} {req : Request} {routes first second : List Route}

/-- The methods of the routes whose pattern matches a path, in the order of the routes. -/
def methodsAt (path : String) (routes : List Route) : List Method :=
  (routes.filter fun route => (route.pattern.match? path).isSome).map Route.method

/-- The router hands a request to a handler: that of its first route that serves the request, which
sees the parameters of the path bound and makes the answer. -/
structure Runs (r : Router) (req : Request) (route : Route) (params : Params) : Prop where
  /-- No route before this one serves the request. -/
  first : ∃ before after, r.routes = before ++ route :: after
    ∧ ∀ other ∈ before, ¬ other.Serves req
  answers : route.method.answers req.method = true
  binds : route.pattern.match? req.path = some params
  exchange : r.dispatch req
    = ⟨{ req with params := params }, route.handler { req with params := params }⟩

/-- Some handler is run on a request. -/
def RunsHandler (r : Router) (req : Request) : Prop := ∃ route params, r.Runs req route params

/-! ### The route that is found -/

lemma findRoute?_eq_none_iff :
    findRoute? req routes = none ↔ ∀ route ∈ routes, ¬ route.Serves req := by
  rw [findRoute?, List.findSome?_eq_none_iff]
  refine forall₂_congr ?_
  intro route _
  rw [Route.Serves, Pattern.Matches]
  cases route.method.answers req.method <;> simp

/-- The route that is found is the first that serves the request. -/
lemma findRoute?_eq_some_iff {route : Route} {params : Params} :
    findRoute? req routes = some (route, params) ↔
      (∃ before after, routes = before ++ route :: after ∧ ∀ other ∈ before, ¬ other.Serves req)
        ∧ route.method.answers req.method = true
        ∧ route.pattern.match? req.path = some params := by
  rw [findRoute?, List.findSome?_eq_some_iff]
  constructor
  · rintro ⟨before, found, after, rfl, hfound, hbefore⟩
    rw [Option.ite_none_right_eq_some, Option.map_eq_some_iff] at hfound
    obtain ⟨hanswers, _, hbinds, heq⟩ := hfound
    obtain ⟨rfl, rfl⟩ := Prod.mk.inj heq
    refine ⟨⟨before, after, rfl, ?_⟩, hanswers, hbinds⟩
    exact findRoute?_eq_none_iff.1 (List.findSome?_eq_none_iff.2 hbefore)
  · rintro ⟨⟨before, after, rfl, hbefore⟩, hanswers, hbinds⟩
    refine ⟨before, route, after, rfl, ?_, ?_⟩
    · rw [if_pos hanswers, hbinds, Option.map_some]
    · exact List.findSome?_eq_none_iff.1 (findRoute?_eq_none_iff.2 hbefore)

lemma mem_of_findRoute? {route : Route} {params : Params}
    (hfound : findRoute? req routes = some (route, params)) : route ∈ routes := by
  obtain ⟨⟨before, after, rfl, -⟩, -⟩ := findRoute?_eq_some_iff.1 hfound
  exact List.mem_append_cons_self

lemma exists_findRoute? (hserves : ∃ route ∈ routes, route.Serves req) :
    ∃ route params, findRoute? req routes = some (route, params) := by
  cases hfound : findRoute? req routes with
  | none =>
    obtain ⟨route, hroute, hserves⟩ := hserves
    exact absurd hserves (findRoute?_eq_none_iff.1 hfound route hroute)
  | some found => exact ⟨found.1, found.2, rfl⟩

lemma findRoute?_append :
    findRoute? req (first ++ second) = (findRoute? req first).or (findRoute? req second) := by
  rw [findRoute?, List.findSome?_append]
  rfl

/-- Routes whose pattern does not match are not looked at. -/
lemma findRoute?_filter (req : Request) (routes : List Route) :
    findRoute? req (routes.filter fun route => (route.pattern.match? req.path).isSome)
      = findRoute? req routes := by
  induction routes with
  | nil => rfl
  | cons route routes ih =>
    cases hmatch : route.pattern.match? req.path with
    | none =>
      rw [List.filter_cons_of_neg (by simp [hmatch]), ih, findRoute?_cons, hmatch]
      cases route.method.answers req.method <;> rfl
    | some params =>
      rw [List.filter_cons_of_pos (by simp [hmatch]), findRoute?_cons, findRoute?_cons, ih]

/-! ### The methods that are called -/

/-- The page for a wrong method calls a roll of the methods. -/
theorem isRoll_allowedMethods (path : String) (routes : List Route) :
    IsRoll (methodsAt path routes) (allowedMethods path routes) :=
  isRoll_foldl _

/-- The methods of later routes are called after the others, unless they are called already. -/
lemma allowedMethods_append (path : String) (first second : List Route) :
    allowedMethods path (first ++ second)
      = allowedMethods path first
        ++ (allowedMethods path second).filter (· ∉ allowedMethods path first) := by
  have happend := (isRoll_allowedMethods path first).append (isRoll_allowedMethods path second)
  have hmethods : methodsAt path (first ++ second)
      = methodsAt path first ++ methodsAt path second := by
    rw [methodsAt, List.filter_append, List.map_append]
    rfl
  rw [← hmethods] at happend
  exact (isRoll_allowedMethods path (first ++ second)).eq happend

/-! ### Dispatching -/

lemma dispatch_of_findRoute? {route : Route} {params : Params}
    (hfound : findRoute? req r.routes = some (route, params)) :
    r.dispatch req
      = ⟨{ req with params := params }, route.handler { req with params := params }⟩ := by
  rw [dispatch, hfound]

/-- A request that no route serves is left alone, and is answered with a page. -/
theorem isUnserved_dispatch (hnone : ∀ route ∈ r.routes, ¬ route.Serves req) :
    (r.dispatch req).IsUnserved req (allowedMethods req.path r.routes) := by
  have hkey : Headers.key "Allow" ≠ Headers.key ResponseHeader.contentType.name := by decide +kernel
  rw [dispatch, findRoute?_eq_none_iff.2 hnone]
  cases allowedMethods req.path r.routes with
  | nil =>
    exact ⟨rfl, rfl, (Response.page_getAll _ _).trans (if_neg hkey), Response.page_fields _, rfl⟩
  | cons m allowed =>
    have hnew : (Response.page .methodNotAllowed).headers.contains "Allow" = false := by
      rw [Response.page_contains, beq_false_of_ne hkey]
    refine ⟨rfl, rfl, ?_, ?_, rfl⟩
    · rw [if_neg (List.cons_ne_nil m allowed)]
      dsimp only
      rw [Response.methodNotAllowed, Response.withHeader, Headers.getAll_append, if_pos rfl,
        Response.page_getAll, if_neg hkey, List.nil_append]
    · rw [if_neg (List.cons_ne_nil m allowed)]
      exact Headers.fields_append_of_contains_eq_false hnew _

/-- Routers that have the same routes for a path do the same with a request for it. -/
theorem dispatch_congr
    (hroutes : r.routes.filter (fun route => (route.pattern.match? req.path).isSome)
      = s.routes.filter fun route => (route.pattern.match? req.path).isSome) :
    r.dispatch req = s.dispatch req := by
  have hfound : findRoute? req r.routes = findRoute? req s.routes := by
    rw [← findRoute?_filter, hroutes, findRoute?_filter]
  have hallowed : allowedMethods req.path r.routes = allowedMethods req.path s.routes := by
    rw [allowedMethods, hroutes]
    rfl
  rw [dispatch, dispatch, hfound, hallowed]

/-- A handler is run exactly if some route serves the request. -/
theorem runsHandler_iff : r.RunsHandler req ↔ ∃ route ∈ r.routes, route.Serves req := by
  constructor
  · rintro ⟨route, params, hruns⟩
    obtain ⟨before, after, hroutes, -⟩ := hruns.first
    refine ⟨route, by simp [hroutes], ?_, hruns.answers⟩
    rw [Pattern.Matches, hruns.binds, Option.isSome_some]
  · intro hserves
    obtain ⟨route, params, hfound⟩ := exists_findRoute? hserves
    obtain ⟨hfirst, hanswers, hbinds⟩ := findRoute?_eq_some_iff.1 hfound
    exact ⟨route, params, hfirst, hanswers, hbinds, dispatch_of_findRoute? hfound⟩

/-! ### Routers with more routes -/

/-- The router with further routes, each for a method and a pattern, added one after another. -/
def addRoutes (r : Router) (more : List (Method × String × Handler)) : Router :=
  more.foldl (fun r entry => r.route entry.1 entry.2.1 entry.2.2) r

lemma exists_routes_addRoutes (r : Router) (more : List (Method × String × Handler)) :
    ∃ added, (r.addRoutes more).routes = r.routes ++ added := by
  induction more generalizing r with
  | nil => exact ⟨[], (List.append_nil _).symm⟩
  | cons entry more ih =>
    obtain ⟨added, hadded⟩ := ih (r.route entry.1 entry.2.1 entry.2.2)
    refine ⟨⟨entry.1, .ofText entry.2.1, entry.2.2⟩ :: added, ?_⟩
    rw [addRoutes, List.foldl_cons]
    exact hadded.trans (List.append_assoc _ _ _)

/-- Later routes do not change what earlier ones do with a request that they serve. -/
lemma dispatch_append_of_serves (hserves : ∃ route ∈ first, route.Serves req) :
    dispatch ⟨first ++ second⟩ req = dispatch ⟨first⟩ req := by
  obtain ⟨route, params, hfound⟩ := exists_findRoute? hserves
  have happend : findRoute? req (first ++ second) = some (route, params) := by
    rw [findRoute?_append, hfound, Option.some_or]
  rw [dispatch_of_findRoute? hfound, dispatch_of_findRoute? happend]

/-- What earlier routes leave unserved comes to later ones. -/
lemma dispatch_append_of_not_serves (hnone : ∀ route ∈ first, ¬ route.Serves req)
    (hserves : ∃ route ∈ second, route.Serves req) :
    dispatch ⟨first ++ second⟩ req = dispatch ⟨second⟩ req := by
  obtain ⟨route, params, hfound⟩ := exists_findRoute? hserves
  have happend : findRoute? req (first ++ second) = some (route, params) := by
    rw [findRoute?_append, findRoute?_eq_none_iff.2 hnone, Option.none_or, hfound]
  rw [dispatch_of_findRoute? hfound, dispatch_of_findRoute? happend]

/-- Two neighbouring routes that have no path in common can change places. -/
lemma dispatch_swap {a b : Route}
    (hapart : ¬ (a.pattern.Matches req.path ∧ b.pattern.Matches req.path)) :
    dispatch ⟨first ++ a :: b :: second⟩ req = dispatch ⟨first ++ b :: a :: second⟩ req := by
  apply dispatch_congr
  by_cases ha : a.pattern.Matches req.path
  · have hb : ¬ b.pattern.Matches req.path := fun hb => hapart ⟨ha, hb⟩
    rw [Pattern.Matches] at ha hb
    simp [ha, hb]
  · rw [Pattern.Matches] at ha
    simp [List.filter_cons, ha]

/-- **Routers compose.**  Of two lists of routes, the first does with a request what it does alone
if one of its routes serves the request; otherwise the second does, if one of its routes does; and
otherwise the request is left alone, and the page calls the methods of the first list and then those
of the second that are new, or says that nothing was found where neither has any.  So routes that
are added to a router change nothing of what it answers, and neighbours that have no path in common
can change places. -/
theorem dispatch_append (first second : List Route) (req : Request) :
    ((∃ route ∈ first, route.Serves req) →
        dispatch ⟨first ++ second⟩ req = dispatch ⟨first⟩ req)
      ∧ ((∀ route ∈ first, ¬ route.Serves req) → (∃ route ∈ second, route.Serves req) →
        dispatch ⟨first ++ second⟩ req = dispatch ⟨second⟩ req)
      ∧ ((∀ route ∈ first ++ second, ¬ route.Serves req) → ∃ one two,
        IsRoll (methodsAt req.path first) one ∧ IsRoll (methodsAt req.path second) two
          ∧ (dispatch ⟨first⟩ req).IsUnserved req one
          ∧ (dispatch ⟨second⟩ req).IsUnserved req two
          ∧ (dispatch ⟨first ++ second⟩ req).IsUnserved req (one ++ two.filter (· ∉ one))
          ∧ (dispatch ⟨first ++ second⟩ req).response.status
            = if one = [] ∧ two = [] then .notFound else .methodNotAllowed)
      ∧ (RunsHandler ⟨first⟩ req → ∀ more : List (Method × String × Handler),
        (addRoutes ⟨first⟩ more).dispatch req = dispatch ⟨first⟩ req)
      ∧ ∀ a b : Route, (∀ path, ¬ (a.pattern.Matches path ∧ b.pattern.Matches path)) →
        dispatch ⟨first ++ a :: b :: second⟩ req = dispatch ⟨first ++ b :: a :: second⟩ req := by
  refine ⟨dispatch_append_of_serves, dispatch_append_of_not_serves, ?_, ?_, ?_⟩
  · intro hnone
    have hboth := hnone
    rw [List.forall_mem_append] at hboth
    have hall := isUnserved_dispatch (r := ⟨first ++ second⟩) hnone
    rw [allowedMethods_append] at hall
    refine ⟨_, _, isRoll_allowedMethods req.path first, isRoll_allowedMethods req.path second,
      isUnserved_dispatch hboth.1, isUnserved_dispatch hboth.2, hall, hall.status.trans ?_⟩
    -- the methods of the second list are all new where the first list has none
    cases allowedMethods req.path first <;> simp
  · intro hruns more
    obtain ⟨added, hadded⟩ := exists_routes_addRoutes ⟨first⟩ more
    have hsame : dispatch ⟨first ++ added⟩ req = dispatch ⟨first⟩ req :=
      dispatch_append_of_serves (runsHandler_iff.1 hruns)
    rw [← hsame]
    exact dispatch_congr (by rw [hadded])
  · intro a b hapart
    exact dispatch_swap (hapart req.path)

/-- Routes for one person come before routes for new persons, and overlap with them: the former keep
what they serve, the latter get what is left, and both have their methods called. -/
theorem dispatch_append_persons :
    let route (method : Method) (pattern : String) : Route :=
      ⟨method, .ofText pattern, fun _ => .ok⟩
    let one := [route .get "/persons/\x7bid\x7d", route .put "/persons/\x7bid\x7d"]
    let new := [route .get "/persons/new", route .post "/persons/new", route .put "/persons/new"]
    let req (method : Method) : Request := .new method "/persons/new"
    dispatch ⟨one ++ new⟩ (req .head) = dispatch ⟨one⟩ (req .head)
      ∧ dispatch ⟨one ++ new⟩ (req .post) = dispatch ⟨new⟩ (req .post)
      ∧ (dispatch ⟨one ++ new⟩ (req .delete)).response.status = .methodNotAllowed
      ∧ (dispatch ⟨one ++ new⟩ (req .delete)).response.headers.getAll "Allow" = ["GET, PUT, POST"]
      ∧ (addRoutes ⟨one⟩ [(.get, "/persons/new", fun _ => .notFound)]).dispatch (req .get)
        = dispatch ⟨one⟩ (req .get)
      ∧ dispatch ⟨one ++ route .get "/a" :: route .get "/b" :: new⟩ (req .post)
        = dispatch ⟨one ++ route .get "/b" :: route .get "/a" :: new⟩ (req .post) := by
  intro route one new req
  have hunserved : ∀ route ∈ one ++ new, ¬ route.Serves (req .delete) := by decide +kernel
  have hone : methodsAt (req .delete).path one = [.get, .put] := by decide +kernel
  have hnew : methodsAt (req .delete).path new = [.get, .post, .put] := by decide +kernel
  have hapart : ∀ path, ¬ ((route .get "/a").pattern.Matches path
      ∧ (route .get "/b").pattern.Matches path) := by
    have ha : (route .get "/a").pattern = ⟨[.literal "a"]⟩ := by decide +kernel
    have hb : (route .get "/b").pattern = ⟨[.literal "b"]⟩ := by decide +kernel
    rintro path ⟨hmatch, hmatch'⟩
    rw [Pattern.Matches, Pattern.match?] at hmatch hmatch'
    rw [ha] at hmatch
    rw [hb] at hmatch'
    -- the one segment of the path would be both texts
    cases hpath : pathSegments path with
    | nil => simp [hpath, Pattern.bindSegments?] at hmatch
    | cons part parts =>
      by_cases hpart : "a" = part
      · simp [hpath, Pattern.bindSegments?, ← hpart] at hmatch'
      · simp [hpath, Pattern.bindSegments?, hpart] at hmatch
  obtain ⟨called, more, hcalled, hmore, -, -, hpage, -⟩ :=
    (dispatch_append one new (req .delete)).2.2.1 hunserved
  rw [hone] at hcalled
  rw [hnew] at hmore
  obtain rfl := hcalled.eq (isRoll_foldl [Method.get, .put])
  obtain rfl := hmore.eq (isRoll_foldl [Method.get, .post, .put])
  refine ⟨?_, ?_, hpage.status, ?_, ?_, ?_⟩
  · exact (dispatch_append one new (req .head)).1 (by decide +kernel)
  · exact (dispatch_append one new (req .post)).2.1 (by decide +kernel) (by decide +kernel)
  · exact hpage.allow.trans (by decide +kernel)
  · have hruns : RunsHandler ⟨one⟩ (req .get) := runsHandler_iff.2 (by decide +kernel)
    exact (dispatch_append one new (req .get)).2.2.2.1 hruns _
  · exact (dispatch_append one new (req .post)).2.2.2.2 _ _ hapart

end Router
end HttpMock
