/-
# Error pages

A page is a plain text that tells the code and the reason of a status.  Every error is answered
with the page of its status; a status that allows no body is answered with the status alone.
-/
import HttpMock.Headers.Lemmas
import HttpMock.Method
import HttpMock.Response.Basic

namespace HttpMock
namespace Response

/-- The page of a status. -/
def page (status : Status) : Response :=
  { ofStatus status with body := status.render.toUTF8 }.setHeader .contentType "text/plain"

/-- The page for a request that is refused. -/
def badRequest : Response := page .badRequest

/-- The page for a path that leads nowhere. -/
def notFound : Response := page .notFound

/-- The page for a fault of the server. -/
def internalServerError : Response := page .internalServerError

/-- The page for a path that allows other methods only, which it lists. -/
def methodNotAllowed (allowed : List Method) : Response :=
  (page .methodNotAllowed).withHeader "Allow" (", ".intercalate (allowed.map Method.name))

/-- The answer to any error. -/
def ofError (status : Status) : Response :=
  if status.allowsBody then page status else ofStatus status

/-- A page has one header, which tells its kind. -/
theorem page_fields (status : Status) :
    (page status).headers.fields = [.new ResponseHeader.contentType.name ["text/plain"]] := rfl

theorem page_getAll (status : Status) (name : String) :
    (page status).headers.getAll name
      = if Headers.key name = Headers.key ResponseHeader.contentType.name then ["text/plain"]
        else [] :=
  Headers.getAll_set Headers.empty ResponseHeader.contentType.name "text/plain" name

theorem page_contains (status : Status) (name : String) :
    (page status).headers.contains name
      = (Headers.key name == Headers.key ResponseHeader.contentType.name) := by
  rw [page, setHeader, Headers.contains_set]
  exact Bool.or_false _

end Response
end HttpMock
