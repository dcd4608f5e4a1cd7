/-
# Request methods

The methods that a request can name.  GET and HEAD only read: they carry no body, and they alone
can be made conditional on what the client already holds.
-/

namespace HttpMock

/-- What a request asks to be done. -/
inductive Method
  | get
  | head
  | post
  | put
  | patch
  | delete
  | options
  | trace
deriving DecidableEq, Repr

namespace Method

/-- The methods in order. -/
def all : List Method := [get, head, post, put, patch, delete, options, trace]

/-- The name of a method. -/
def name : Method → String
  | get => "GET"
  | head => "HEAD"
  | post => "POST"
  | put => "PUT"
  | patch => "PATCH"
  | delete => "DELETE"
  | options => "OPTIONS"
  | trace => "TRACE"

/-- The method with a name, which is matched with its case. -/
def ofName? (s : String) : Option Method := all.find? fun m => m.name == s

/-- Whether a method only reads. -/
def isSafeRead : Method → Bool
  | get | head => true
  | _ => false

end Method
end HttpMock
