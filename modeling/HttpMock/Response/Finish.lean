/-
# Finishing a response

A response is finished before it is sent, whoever made it:

* what the client already holds is cut down to the news that nothing was modified;
* a status that allows no body loses its body and the headers that tell of one, and every other
  response tells the length of its body unless it does so already;
* a HEAD request gets no body, though it is told the length;
* the server introduces itself, if it has a name.
-/
import HttpMock.Freshness
import HttpMock.Settings.Basic

namespace HttpMock
namespace Response

/-- The response without its body and without the headers that tell of one. -/
def withoutBody (res : Response) : Response :=
  { res with body := .empty }.eraseHeader .contentLength |>.eraseHeader .contentType

/-- The response with the length of its body, unless it tells a length already. -/
def withLength (res : Response) : Response :=
  if res.hasHeader .contentLength then res
  else res.setHeader .contentLength (Text.decimal res.body.size)

/-- The response cut down to the news that nothing was modified, if that is all there is to say. -/
def conditional (settings : Settings) (req : Request) (res : Response) : Response :=
  if settings.conditionalRequests && req.holdsFresh res then { res with status := .notModified }
  else res

/-- The response with the headers that tell of its body, or without a body. -/
def framed (res : Response) : Response :=
  if res.status.allowsBody then res.withLength else res.withoutBody

/-- The response as a request of a method gets it. -/
def answering (method : Method) (res : Response) : Response :=
  if method = .head then { res with body := .empty } else res

/-- The response with the name of the server, if it has one. -/
def introduced (settings : Settings) (res : Response) : Response :=
  match settings.serverName with
  | some name => res.setHeader .server name
  | none => res

/-- The response as it is sent in answer to a request. -/
def finish (settings : Settings) (req : Request) (res : Response) : Response :=
  (((res.conditional settings req).framed).answering req.method).introduced settings

end Response
end HttpMock
