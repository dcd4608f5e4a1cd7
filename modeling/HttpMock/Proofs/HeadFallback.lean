/-
# Routes for HEAD and routes for GET

A route for GET answers HEAD requests too.  It is meant to stand in where there is no route for HEAD,
but both kinds of routes are tried in one row: the first whose pattern matches the path answers a
HEAD request, whichever of the two methods it has.  So a route for HEAD is overtaken by a route for
GET that was added before it.  Routes of other methods do not count.

* `Router.exists_runs_iff_of_isFirst`: the first route of its method answers a request that its
  method answers, unless a route that serves the request stands before it;
* `Router.IsOvertaken.exists_runs`: a request that is overtaken goes to a route for GET;
* `Router.runs_on_head`: routes for HEAD are preferred exactly if the request is not overtaken.
-/
import HttpMock.Proofs.Routing

namespace HttpMock

/-- A route is the first of its method whose pattern matches a path, and others stand before it. -/
structure Route.IsFirst (route : Route) (routes : List Route) (path : String)
    (before : List Route) : Prop where
  split : ∃ after, routes = before ++ route :: after
  fits : route.pattern.Matches path
  first : ∀ other ∈ before, other.method = route.method → ¬ other.pattern.Matches path

namespace Router

variable {r : Router} {req : Request} {path : String} {routes before : List Route}
  {route other : Route} {params bound : Params} {m : Method}

/-- Routes for GET are tried only where there is no route for HEAD. -/
structure PrefersHead (r : Router) (req : Request) : Prop where
  /-- The first route for HEAD whose pattern matches answers the request. -/
  head : ∀ (before : List Route) (route : Route), route.method = .head →
    route.IsFirst r.routes req.path before → ∃ params, r.Runs req route params
  /-- If a route for GET answers the request, the pattern of no route for HEAD matches. -/
  get : ∀ (route : Route) (params : Params), route.method = .get → r.Runs req route params →
    ∀ other ∈ r.routes, other.method = .head → ¬ other.pattern.Matches req.path

/-- A route for GET whose pattern matches stands before the first such route for HEAD. -/
def IsOvertaken (r : Router) (req : Request) : Prop :=
  ∃ (before : List Route) (route : Route), route.method = .head
    ∧ route.IsFirst r.routes req.path before
    ∧ ∃ other ∈ before, other.method = .get ∧ other.pattern.Matches req.path

/-! ### The first route of a method -/

lemma exists_isFirst
    (hfits : ∃ route ∈ routes, route.method = m ∧ route.pattern.Matches path) :
    ∃ (before : List Route) (route : Route),
      route.method = m ∧ route.IsFirst routes path before := by
  induction routes with
  | nil => exact absurd hfits (by simp)
  | cons route routes ih =>
    by_cases hroute : route.method = m ∧ route.pattern.Matches path
    · exact ⟨[], route, hroute.1, ⟨routes, rfl⟩, hroute.2, List.forall_mem_nil _⟩
    · obtain ⟨found, hfound, hmatch⟩ := hfits
      have hlater : found ∈ routes := by
        refine (List.mem_cons.1 hfound).resolve_left ?_
        rintro rfl
        exact hroute hmatch
      obtain ⟨before, first, hmethod, ⟨after, hsplit⟩, hfits, hbefore⟩ := ih ⟨found, hlater, hmatch⟩
      refine ⟨route :: before, first, hmethod, ⟨after, by rw [hsplit]; rfl⟩, hfits, ?_⟩
      intro other hother hsame
      rcases List.mem_cons.1 hother with rfl | hother
      · exact fun hmatches => hroute ⟨hsame.trans hmethod, hmatches⟩
      · exact hbefore other hother hsame

/-- What stands before a route that is run is known: it is what stands before the first route of its
method. -/
lemma exists_runs_iff_of_isFirst (hfirst : route.IsFirst r.routes req.path before)
    (hanswers : route.method.answers req.method = true) :
    (∃ params, r.Runs req route params) ↔ ∀ other ∈ before, ¬ other.Serves req := by
  obtain ⟨⟨after, hsplit⟩, hfits, hbefore⟩ := hfirst
  constructor
  · rintro ⟨params, hruns⟩ other hother hserves
    obtain ⟨before', after', hsplit', hnone⟩ := hruns.first
    rw [hsplit, List.append_eq_append_iff] at hsplit'
    rcases hsplit' with ⟨more, rfl, -⟩ | ⟨more, rfl, hmore⟩
    · exact hnone other (List.mem_append_left more hother) hserves
    · cases more with
      | nil => exact hnone other (by simpa using hother) hserves
      | cons again more =>
        -- the route cannot stand a second time among those before it
        exfalso
        obtain ⟨rfl, -⟩ := List.cons.inj hmore
        exact hbefore route (by simp) rfl hfits
  · intro hnone
    obtain ⟨params, hbinds⟩ := Option.isSome_iff_exists.1 hfits
    have hfound : findRoute? req r.routes = some (route, params) :=
      findRoute?_eq_some_iff.2 ⟨⟨before, after, hsplit, hnone⟩, hanswers, hbinds⟩
    exact ⟨params, ⟨before, after, hsplit, hnone⟩, hanswers, hbinds, dispatch_of_findRoute? hfound⟩

/-- No two routes are run on one request. -/
lemma Runs.unique (hruns : r.Runs req route params) (hother : r.Runs req other bound) :
    route = other := by
  have hroute := findRoute?_eq_some_iff.2 ⟨hruns.first, hruns.answers, hruns.binds⟩
  rw [findRoute?_eq_some_iff.2 ⟨hother.first, hother.answers, hother.binds⟩] at hroute
  exact (Prod.mk.inj (Option.some.inj hroute)).1.symm

/-! ### HEAD requests -/

variable (hhead : req.method = .head)

include hhead

lemma answers_of_head :
    route.method.answers req.method = true ↔ route.method = .head ∨ route.method = .get := by
  rw [Method.answers_iff, hhead]
  simp

lemma serves_of_head : route.Serves req ↔
    (route.method = .head ∨ route.method = .get) ∧ route.pattern.Matches req.path := by
  rw [Route.Serves, answers_of_head hhead, and_comm]

/-- A request that is overtaken goes to the first route for GET. -/
lemma IsOvertaken.exists_runs (hover : r.IsOvertaken req) :
    ∃ (before : List Route) (route : Route) (params : Params), route.method = .get
      ∧ route.IsFirst r.routes req.path before ∧ r.Runs req route params := by
  obtain ⟨before, head, hmethod, ⟨⟨after, hsplit⟩, -, hnohead⟩, hget⟩ := hover
  obtain ⟨earlier, get, hgetmethod, ⟨between, rfl⟩, hfits, hnoget⟩ := exists_isFirst hget
  have hfirst : get.IsFirst r.routes req.path earlier :=
    ⟨⟨between ++ head :: after, by rw [hsplit]; simp⟩, hfits, hnoget⟩
  have hnone : ∀ other ∈ earlier, ¬ other.Serves req := by
    intro other hother hserves
    rw [serves_of_head hhead] at hserves
    obtain ⟨hhead' | hget', hmatches⟩ := hserves
    · exact hnohead other (List.mem_append_left _ hother) (hhead'.trans hmethod.symm) hmatches
    · exact hnoget other hother (hget'.trans hgetmethod.symm) hmatches
  obtain ⟨params, hruns⟩ := (exists_runs_iff_of_isFirst hfirst
    ((answers_of_head hhead).2 (.inr hgetmethod))).2 hnone
  exact ⟨earlier, get, params, hgetmethod, hfirst, hruns⟩

/-- A request that is not overtaken goes to the first route for HEAD, if there is one. -/
lemma exists_runs_of_not_isOvertaken (hover : ¬ r.IsOvertaken req) (hmethod : route.method = .head)
    (hfirst : route.IsFirst r.routes req.path before) : ∃ params, r.Runs req route params := by
  refine (exists_runs_iff_of_isFirst hfirst ((answers_of_head hhead).2 (.inl hmethod))).2 ?_
  intro other hother hserves
  obtain ⟨hhead' | hget', hmatches⟩ := (serves_of_head hhead).1 hserves
  · exact hfirst.first other hother (hhead'.trans hmethod.symm) hmatches
  · exact hover ⟨before, route, hmethod, hfirst, other, hother, hget', hmatches⟩

lemma prefersHead_iff : r.PrefersHead req ↔ ¬ r.IsOvertaken req := by
  constructor
  · intro hprefers hover
    obtain ⟨-, get, params, hget, -, hruns⟩ := hover.exists_runs hhead
    obtain ⟨before, head, hmethod, ⟨⟨after, hsplit⟩, hfits, -⟩, -⟩ := hover
    exact hprefers.get get params hget hruns head (by rw [hsplit]; simp) hmethod hfits
  · intro hover
    refine ⟨fun before route hmethod hfirst =>
      exists_runs_of_not_isOvertaken hhead hover hmethod hfirst, ?_⟩
    intro get params hget hruns head hmem hmethod hfits
    obtain ⟨before, first, hfirstmethod, hfirst⟩ := exists_isFirst ⟨head, hmem, hmethod, hfits⟩
    obtain ⟨bound, hfirstruns⟩ := exists_runs_of_not_isOvertaken hhead hover hfirstmethod hfirst
    -- one route is run, and it has one method
    rw [hruns.unique hfirstruns, hfirstmethod] at hget
    exact absurd hget (by decide)

omit hhead

/-- **Routes for HEAD and for GET race for a HEAD request.**  The first route of either method that
matches the path answers it if and only if no such route of the other method stands before it.  So
routes for HEAD are preferred, and those for GET only stand in for them, exactly if no route for GET
overtakes the first route for HEAD; and if one does, the first route for GET answers the request,
though there is a route for HEAD. -/
theorem runs_on_head (r : Router) (req : Request) (hhead : req.method = .head) :
    (∀ (before : List Route) (route : Route), route.method = .head ∨ route.method = .get →
        route.IsFirst r.routes req.path before →
        ((∃ params, r.Runs req route params) ↔ ∀ other ∈ before,
          other.method = .head ∨ other.method = .get → ¬ other.pattern.Matches req.path))
      ∧ (r.PrefersHead req ↔ ¬ r.IsOvertaken req)
      ∧ (r.IsOvertaken req → ∃ (before : List Route) (route : Route) (params : Params),
        route.method = .get ∧ route.IsFirst r.routes req.path before
          ∧ r.Runs req route params) := by
  refine ⟨?_, prefersHead_iff hhead, fun hover => hover.exists_runs hhead⟩
  intro before route hmethod hfirst
  rw [exists_runs_iff_of_isFirst hfirst ((answers_of_head hhead).2 hmethod)]
  refine forall₂_congr ?_
  intro other _
  rw [serves_of_head hhead, not_and]

/-- Of two routes for one page the one that was added first answers a HEAD request: the route for
GET overtakes the route for HEAD, or stands behind it. -/
theorem runs_on_head_twice :
    let get : Route := ⟨.get, .ofText "/doc", fun _ => .ok⟩
    let head : Route := ⟨.head, .ofText "/doc", fun _ => .ofStatus .noContent⟩
    let req := Request.new .head "/doc"
    ((∃ params, Runs ⟨[get, head]⟩ req get params) ∧ ¬ PrefersHead ⟨[get, head]⟩ req)
      ∧ (∃ params, Runs ⟨[head, get]⟩ req head params) ∧ PrefersHead ⟨[head, get]⟩ req := by
  intro get head req
  have hget : get.pattern.Matches req.path := by decide +kernel
  have hhead : head.pattern.Matches req.path := by decide +kernel
  have hearly : get.IsFirst [get, head] req.path [] :=
    ⟨⟨[head], rfl⟩, hget, List.forall_mem_nil _⟩
  have hlate : head.IsFirst [get, head] req.path [get] :=
    ⟨⟨[], rfl⟩, hhead, List.forall_mem_singleton.2 fun hsame => absurd hsame (by decide)⟩
  have hfront : head.IsFirst [head, get] req.path [] :=
    ⟨⟨[get], rfl⟩, hhead, List.forall_mem_nil _⟩
  obtain ⟨hrace, hprefers, -⟩ := runs_on_head ⟨[get, head]⟩ req rfl
  obtain ⟨hrace', hprefers', -⟩ := runs_on_head ⟨[head, get]⟩ req rfl
  refine ⟨⟨?_, ?_⟩, ?_, ?_⟩
  · exact (hrace [] get (.inr rfl) hearly).2 (List.forall_mem_nil _)
  · rw [hprefers, not_not]
    exact ⟨[get], head, rfl, hlate, get, List.mem_singleton_self get, rfl, hget⟩
  · exact (hrace' [] head (.inl rfl) hfront).2 (List.forall_mem_nil _)
  · rw [hprefers']
    rintro ⟨before, route, hmethod, hfirst, other, hother, -⟩
    -- the route for HEAD is at the front, so nothing stands before it
    obtain ⟨after, hsplit⟩ := hfirst.split
    cases before with
    | nil => exact absurd hother List.not_mem_nil
    | cons front before =>
      obtain ⟨rfl, -⟩ := List.cons.inj hsplit
      exact hfirst.first head List.mem_cons_self hmethod.symm hhead

end Router
end HttpMock
