/-
# Drafts of requests

A draft is a request that is still being described.  A header that is named again gets a further
value; the content type, the two conditions and the body are replaced.  Finishing a draft tells the
length of a body that is not empty, unless the draft already says what the length is.

A step is one of these descriptions, as a value; a draft is a list of steps, done in order.
-/
import HttpMock.Request.Basic

namespace HttpMock

/-- A request under description. -/
structure Draft where
  /-- What has been described so far. -/
  request : Request

namespace Draft

/-- The draft of a request of a method for a target. -/
def new (method : Method) (uri : String) : Draft := ⟨Request.new method uri⟩

/-- Adds a value to those of a header. -/
def header (d : Draft) (name value : String) : Draft :=
  ⟨{ d.request with headers := d.request.headers.append name value }⟩

/-- Says what kind of content the body is. -/
def contentType (d : Draft) (value : String) : Draft := ⟨d.request.setHeader .contentType value⟩

/-- Asks for the content only if it was modified after a date. -/
def ifModifiedSince (d : Draft) (date : String) : Draft :=
  ⟨d.request.setHeader .ifModifiedSince date⟩

/-- Asks for the content only if it has none of the listed tags. -/
def ifNoneMatch (d : Draft) (tags : String) : Draft := ⟨d.request.setHeader .ifNoneMatch tags⟩

/-- Gives the request a body. -/
def body (d : Draft) (bytes : ByteArray) : Draft := ⟨{ d.request with body := bytes }⟩

/-- The request described, with the length of its body. -/
def finish (d : Draft) : Request :=
  if d.request.hasBody && !d.request.hasHeader .contentLength then
    d.request.setHeader .contentLength (Text.decimal d.request.body.size)
  else d.request

/-- One description that is added to a draft. -/
inductive Step
  /-- Adds a value to those of a header. -/
  | header (name value : String)
  /-- Says what kind of content the body is. -/
  | contentType (value : String)
  /-- Asks for the content only if it was modified after a date. -/
  | ifModifiedSince (date : String)
  /-- Asks for the content only if it has none of the listed tags. -/
  | ifNoneMatch (tags : String)
  /-- Gives the request a body. -/
  | body (bytes : ByteArray)

/-- The draft after a step. -/
def step (d : Draft) : Step → Draft
  | .header name value => d.header name value
  | .contentType value => d.contentType value
  | .ifModifiedSince date => d.ifModifiedSince date
  | .ifNoneMatch tags => d.ifNoneMatch tags
  | .body bytes => d.body bytes

/-- The draft that some steps make. -/
def ofSteps (method : Method) (uri : String) (steps : List Step) : Draft :=
  steps.foldl step (new method uri)

end Draft
end HttpMock
