/-
# Requests

A request names a method and a target, and carries headers and a body.  The target is the path and,
after its first question mark, a query.  The parameters of the path are bound when the request is
routed: each name once, in the order in which the names were first bound, the last binding of a
name being the one that counts.
-/
import HttpMock.Headers.Basic
import HttpMock.Method

namespace HttpMock

/-- A version of the protocol. -/
structure Version where
  /-- The number before the point. -/
  major : Nat
  /-- The number after the point. -/
  minor : Nat
deriving DecidableEq, Repr

/-- The values bound to names in a path, in the order of the names. -/
structure Params where
  /-- The names with their values. -/
  bindings : List (String × String)
deriving DecidableEq, Repr

namespace Params

/-- No bindings. -/
def empty : Params := ⟨[]⟩

/-- Binds a name in a list of bindings: where the name stands already, else at the end. -/
def bindIn (name value : String) : List (String × String) → List (String × String)
  | [] => [(name, value)]
  | b :: bindings =>
    if b.1 = name then (name, value) :: bindings else b :: bindIn name value bindings

/-- Binds a name to a value, in place of the value it had. -/
def bind (p : Params) (name value : String) : Params := ⟨bindIn name value p.bindings⟩

/-- The value bound to a name. -/
def get? (p : Params) (name : String) : Option String := p.bindings.lookup name

theorem lookup_bindIn (name value other : String) (bindings : List (String × String)) :
    (bindIn name value bindings).lookup other
      = if other = name then some value else bindings.lookup other := by
  induction bindings with
  | nil =>
    by_cases h : other = name
    · simp [bindIn, h]
    · simp [bindIn, List.lookup_cons, beq_false_of_ne h, h]
  | cons b bindings ih =>
    obtain ⟨first, bound⟩ := b
    by_cases hb : first = name
    · subst hb
      by_cases h : other = first
      · simp [bindIn, h]
      · simp [bindIn, List.lookup_cons, beq_false_of_ne h, h]
    · by_cases h : other = first
      · simp [bindIn, hb, h]
      · simp [bindIn, List.lookup_cons, beq_false_of_ne h, hb, ih]

/-- A name has the value to which it was bound last. -/
theorem get?_bind (p : Params) (name value other : String) :
    (p.bind name value).get? other = if other = name then some value else p.get? other :=
  lookup_bindIn name value other p.bindings

end Params

/-- The headers of a request that have a meaning of their own here. -/
inductive RequestHeader
  | host
  | contentLength
  | contentType
  | ifModifiedSince
  | ifNoneMatch
deriving DecidableEq, Repr

namespace RequestHeader

/-- The usual spelling of a header's name. -/
def name : RequestHeader → String
  | host => "Host"
  | contentLength => "Content-Length"
  | contentType => "Content-Type"
  | ifModifiedSince => "If-Modified-Since"
  | ifNoneMatch => "If-None-Match"

end RequestHeader

/-- A request as a handler receives it. -/
structure Request where
  /-- What is asked to be done. -/
  method : Method
  /-- The target: a path and perhaps a query. -/
  uri : String
  /-- The version of the protocol. -/
  version : Version
  /-- The headers. -/
  headers : Headers
  /-- The body, empty if there is none. -/
  body : ByteArray
  /-- The parameters of the path, bound by routing. -/
  params : Params

namespace Request

/-- The request of a method for a target, with nothing else. -/
def new (method : Method) (uri : String) : Request :=
  ⟨method, uri, ⟨1, 1⟩, .empty, .empty, .empty⟩

/-- The target up to its first question mark. -/
def path (r : Request) : String := String.ofList (r.uri.toList.takeWhile (· != '?'))

/-- The target after its first question mark. -/
def query? (r : Request) : Option String :=
  match r.uri.toList.dropWhile (· != '?') with
  | [] => none
  | _ :: query => some (String.ofList query)

/-- The value bound to a parameter of the path. -/
def param? (r : Request) (name : String) : Option String := r.params.get? name

/-- The first value of a header. -/
def header? (r : Request) (h : RequestHeader) : Option String := r.headers.get? h.name

/-- Whether the request has a header. -/
def hasHeader (r : Request) (h : RequestHeader) : Bool := r.headers.contains h.name

/-- Gives a header one value in place of those it has. -/
def setHeader (r : Request) (h : RequestHeader) (value : String) : Request :=
  { r with headers := r.headers.set h.name value }

/-- Whether there is anything in the body. -/
def hasBody (r : Request) : Bool := r.body.size != 0

end Request
end HttpMock
