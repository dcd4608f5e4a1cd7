/-
# The harness

A harness answers requests as a server would, in one process and without a connection.  A request
that names no host gets the host of the settings.  If the check lets it through, the router answers
it; else it is answered with the page of its fault.  Every answer is finished in the same way.
-/
import HttpMock.Request.Check
import HttpMock.Response.Finish
import HttpMock.Route.Router

namespace HttpMock

/-- A router with the settings under which it answers. -/
structure Harness where
  /-- The routes. -/
  router : Router
  /-- The settings. -/
  settings : Settings

namespace Harness

/-- The harness of some routes, with nothing set. -/
def ofRouter (router : Router) : Harness := ⟨router, .default⟩

/-- Answers a request that was let through. -/
def handle (h : Harness) (req : Request) : Exchange :=
  let answered := h.router.dispatch req
  { answered with response := answered.response.finish h.settings answered.request }

/-- Answers a request with an error. -/
def refuse (settings : Settings) (status : Status) (req : Request) : Response :=
  (Response.ofError status).finish settings req

/-- The request with a host. -/
def hosted (settings : Settings) (req : Request) : Request :=
  if req.hasHeader .host then req else req.setHeader .host settings.defaultHost

/-- Answers a request. -/
def perform (h : Harness) (req : Request) : Response :=
  let req := hosted h.settings req
  match req.check h.settings with
  | .ok _ => (h.handle req).response
  | .error fault => refuse h.settings fault.status req

end Harness
end HttpMock
