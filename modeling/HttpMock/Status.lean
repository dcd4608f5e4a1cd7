/-
# Response statuses

The statuses that a response can have, with their codes and reason phrases.  A response without
content, and one that says that nothing was modified, have no body.
-/
import HttpMock.Text.Numeral

namespace HttpMock

/-- The outcome that a response reports. -/
inductive Status
  | ok
  | created
  | noContent
  | notModified
  | badRequest
  | notFound
  | methodNotAllowed
  | payloadTooLarge
  | internalServerError
  | versionNotSupported
deriving DecidableEq, Repr

namespace Status

/-- The statuses in the order of their codes. -/
def all : List Status :=
  [ok, created, noContent, notModified, badRequest, notFound, methodNotAllowed, payloadTooLarge,
    internalServerError, versionNotSupported]

/-- The code of a status. -/
def code : Status → Nat
  | ok => 200
  | created => 201
  | noContent => 204
  | notModified => 304
  | badRequest => 400
  | notFound => 404
  | methodNotAllowed => 405
  | payloadTooLarge => 413
  | internalServerError => 500
  | versionNotSupported => 505

/-- The reason phrase of a status. -/
def reason : Status → String
  | ok => "OK"
  | created => "Created"
  | noContent => "No Content"
  | notModified => "Not Modified"
  | badRequest => "Bad Request"
  | notFound => "Not Found"
  | methodNotAllowed => "Method Not Allowed"
  | payloadTooLarge => "Payload Too Large"
  | internalServerError => "Internal Server Error"
  | versionNotSupported => "HTTP Version Not Supported"

/-- The status with a code. -/
def ofCode? (n : Nat) : Option Status := all.find? fun s => s.code == n

/-- Whether a response with this status may have a body. -/
def allowsBody : Status → Bool
  | noContent | notModified => false
  | _ => true

/-- The code and the reason phrase. -/
def render (s : Status) : String := Text.decimal s.code ++ " " ++ s.reason

@[simp] theorem ofCode?_code (s : Status) : ofCode? s.code = some s := by cases s <;> rfl

theorem code_injective {s t : Status} (h : s.code = t.code) : s = t := by
  have hsome := ofCode?_code s
  rw [h, ofCode?_code] at hsome
  exact (Option.some.inj hsome).symm

end Status
end HttpMock
