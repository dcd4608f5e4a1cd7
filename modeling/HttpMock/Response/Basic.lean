/-
# Responses

A response reports a status and carries headers and a body.  A handler starts from a status and
adds to it; what comes out of the harness is a response too, on which expectations are checked.  It
is rendered as its status line and its header lines, without the body.

A step is one of the additions to a response, as a value; a handler can be a list of steps, done in
order.
-/
import HttpMock.Headers.Basic
import HttpMock.Status

namespace HttpMock

/-- The headers of a response that have a meaning of their own here. -/
inductive ResponseHeader
  | contentLength
  | contentType
  | server
  | lastModified
  | etag
deriving DecidableEq, Repr

namespace ResponseHeader

/-- The usual spelling of a header's name. -/
def name : ResponseHeader → String
  | contentLength => "Content-Length"
  | contentType => "Content-Type"
  | server => "Server"
  | lastModified => "Last-Modified"
  | etag => "ETag"

end ResponseHeader

/-- The answer to a request. -/
structure Response where
  /-- The outcome. -/
  status : Status
  /-- The headers. -/
  headers : Headers
  /-- The body, empty if there is none. -/
  body : ByteArray

namespace Response

/-- The response with a status and nothing else. -/
def ofStatus (status : Status) : Response := ⟨status, .empty, .empty⟩

/-- The response that says that all is well, and nothing else. -/
def ok : Response := ofStatus .ok

instance : Inhabited Response := ⟨ok⟩

/-- The first value of a header. -/
def header? (r : Response) (h : ResponseHeader) : Option String := r.headers.get? h.name

/-- Whether the response has a header. -/
def hasHeader (r : Response) (h : ResponseHeader) : Bool := r.headers.contains h.name

/-- Gives a header one value in place of those it has. -/
def setHeader (r : Response) (h : ResponseHeader) (value : String) : Response :=
  { r with headers := r.headers.set h.name value }

/-- Removes a header. -/
def eraseHeader (r : Response) (h : ResponseHeader) : Response :=
  { r with headers := r.headers.erase h.name }

/-- Adds a value to those of a header. -/
def withHeader (r : Response) (name value : String) : Response :=
  { r with headers := r.headers.append name value }

/-- Adds values to those of a header. -/
def withHeaderValues (r : Response) (name : String) (values : List String) : Response :=
  { r with headers := r.headers.appendAll name values }

/-- Says when the content was last modified; an instant that has no HTTP-date is not told. -/
def withLastModified (r : Response) (millis : Nat) : Response :=
  { r with headers := (r.headers.setDate ResponseHeader.lastModified.name millis).2 }

/-- Tags the content. -/
def withEtag (r : Response) (tag : String) : Response := r.setHeader .etag tag

/-- Gives the response a body of a kind of content. -/
def withBody (r : Response) (contentType : String) (bytes : ByteArray) : Response :=
  { r with body := bytes }.setHeader .contentType contentType

/-- One addition to a response. -/
inductive Step
  /-- Gives a header one value in place of those it has. -/
  | setHeader (header : ResponseHeader) (value : String)
  /-- Adds a value to those of a header. -/
  | withHeader (name value : String)
  /-- Adds values to those of a header. -/
  | withHeaderValues (name : String) (values : List String)
  /-- Says when the content was last modified. -/
  | withLastModified (millis : Nat)
  /-- Tags the content. -/
  | withEtag (tag : String)
  /-- Gives the response a body of a kind of content. -/
  | withBody (contentType : String) (bytes : ByteArray)

/-- The response after a step. -/
def step (r : Response) : Step → Response
  | .setHeader header value => r.setHeader header value
  | .withHeader name value => r.withHeader name value
  | .withHeaderValues name values => r.withHeaderValues name values
  | .withLastModified millis => r.withLastModified millis
  | .withEtag tag => r.withEtag tag
  | .withBody contentType bytes => r.withBody contentType bytes

/-- The response that some steps make of a status. -/
def ofSteps (status : Status) (steps : List Step) : Response := steps.foldl step (ofStatus status)

/-- The body as text, if it is one. -/
def text? (r : Response) : Option String := String.fromUTF8? r.body

/-- The status line and the header lines. -/
def render (r : Response) : String :=
  "HTTP/1.1 " ++ r.status.render ++ "\r\n" ++ r.headers.render

/-- Whether two responses are the same up to the order of their headers. -/
def agrees (r s : Response) : Bool :=
  r.status == s.status && r.headers.agrees s.headers && r.body == s.body

end Response
end HttpMock
