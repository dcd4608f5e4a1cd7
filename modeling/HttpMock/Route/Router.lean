/-
# Routing

A route answers the requests of one method whose path matches its pattern, by a handler: any
function from requests to responses.  A router tries its routes in the order in which they were
added.  The first whose pattern matches and whose method is that of the request, or GET where the
request is a HEAD, answers it, and sees the parameters of the path bound.  Where there is none, the
page says that nothing was found, or, if patterns of other methods match, which methods those are,
each once and in order.
-/
import HttpMock.Route.Pattern
import HttpMock.Response.Page

namespace HttpMock

/-- A function that answers requests. -/
abbrev Handler := Request → Response

/-- A handler for the requests of a method whose path matches a pattern. -/
structure Route where
  /-- The method. -/
  method : Method
  /-- The pattern. -/
  pattern : Pattern
  /-- What answers the request. -/
  handler : Handler

/-- Routes in the order in which they are tried. -/
structure Router where
  /-- The routes. -/
  routes : List Route

/-- A request as it left the router, with its answer. -/
structure Exchange where
  /-- The request, with the parameters of its path if a handler answered it. -/
  request : Request
  /-- The answer. -/
  response : Response

namespace Method

/-- Whether a route of one method answers requests of another. -/
def answers (route request : Method) : Bool :=
  route == request || (request == .head && route == .get)

end Method

namespace Router

/-- The router without routes. -/
def empty : Router := ⟨[]⟩

/-- Adds a route after the others. -/
def route (r : Router) (method : Method) (pattern : String) (handler : Handler) : Router :=
  ⟨r.routes ++ [⟨method, .ofText pattern, handler⟩]⟩

/-- Adds a route for GET requests. -/
def get (r : Router) (pattern : String) (handler : Handler) : Router := r.route .get pattern handler

/-- Adds a route for POST requests. -/
def post (r : Router) (pattern : String) (handler : Handler) : Router :=
  r.route .post pattern handler

/-- Adds a route for PUT requests. -/
def put (r : Router) (pattern : String) (handler : Handler) : Router := r.route .put pattern handler

/-- Adds a route for DELETE requests. -/
def delete (r : Router) (pattern : String) (handler : Handler) : Router :=
  r.route .delete pattern handler

/-- The first of some routes that answers a request, with the bindings of its path. -/
def findRoute? (req : Request) (routes : List Route) : Option (Route × Params) :=
  routes.findSome? fun route =>
    if route.method.answers req.method then
      (route.pattern.match? req.path).map fun params => (route, params)
    else none

/-- The methods of the routes whose pattern matches a path, each once, in order. -/
def allowedMethods (path : String) (routes : List Route) : List Method :=
  ((routes.filter fun route => (route.pattern.match? path).isSome).map Route.method).foldl
    (fun seen m => if m ∈ seen then seen else seen ++ [m]) []

/-- Answers a request by the route for it, or by a page. -/
def dispatch (r : Router) (req : Request) : Exchange :=
  match findRoute? req r.routes with
  | some (route, params) =>
    let req := { req with params := params }
    ⟨req, route.handler req⟩
  | none =>
    match allowedMethods req.path r.routes with
    | [] => ⟨req, .notFound⟩
    | allowed => ⟨req, .methodNotAllowed allowed⟩

/-- A route that answers the request comes before those added after it. -/
theorem findRoute?_cons (req : Request) (route : Route) (routes : List Route) :
    findRoute? req (route :: routes)
      = match route.method.answers req.method, route.pattern.match? req.path with
        | true, some params => some (route, params)
        | _, _ => findRoute? req routes := by
  rw [findRoute?, List.findSome?_cons]
  cases route.method.answers req.method <;> cases route.pattern.match? req.path <;> rfl

end Router
end HttpMock
