/-
# The check of a request

A request is let through only if the server could have understood it: its version is spoken here,
it names its host, the length it states is the length of its body, it has a body only where its
method allows one, and the body is not too large.  The first of these conditions that fails, in
this order, is the fault for which the request is refused.  The main result is
`Request.check_eq_ok_iff`: a request is let through exactly if all conditions hold.
-/
import HttpMock.Request.Basic
import HttpMock.Settings.Basic
import HttpMock.Status
import HttpMock.Text.Blank

namespace HttpMock

/-- Why a request is refused. -/
inductive Fault
  /-- No host is named. -/
  | missingHost
  /-- The version of the protocol is not spoken. -/
  | versionNotSupported (version : Version)
  /-- The body, of the given size, is larger than the settings allow. -/
  | payloadTooLarge (size : Nat)
  /-- The value of a header is not of the form it must have. -/
  | malformedHeader (header : RequestHeader)
  /-- The stated length is not the length of the body. -/
  | contentLengthMismatch
  /-- There is a body, and the method allows none. -/
  | bodyNotAllowed (method : Method)
deriving DecidableEq, Repr

namespace Fault

/-- The wording of the fault. -/
def message : Fault → String
  | missingHost => "request has no Host header"
  | versionNotSupported v =>
    "HTTP/" ++ Text.decimal v.major ++ "." ++ Text.decimal v.minor ++ " is not supported"
  | payloadTooLarge size =>
    "body of " ++ Text.decimal size ++ " bytes exceeds the configured limit"
  | malformedHeader header => "malformed header field " ++ header.name
  | contentLengthMismatch => "Content-Length does not match the body"
  | bodyNotAllowed method => method.name ++ " requests cannot carry a body"

/-- The status with which the request is answered. -/
def status : Fault → Status
  | versionNotSupported _ => .versionNotSupported
  | payloadTooLarge _ => .payloadTooLarge
  | missingHost | malformedHeader _ | contentLengthMismatch | bodyNotAllowed _ => .badRequest

end Fault

namespace Version

/-- Whether a version of the protocol is spoken here. -/
def isSupported (v : Version) : Bool := v.major == 1 && (v.minor == 0 || v.minor == 1)

end Version

namespace Request

/-- The length that a request states, if it states one: nothing where that is not a number. -/
def statedLength? (r : Request) : Option (Option Nat) :=
  (r.header? .contentLength).map fun value => Text.unsigned64? (Text.trimChars value.toList)

/-- Checks that the stated length, if there is one, is that of the body. -/
def checkLength (r : Request) : Except Fault Unit :=
  match r.statedLength? with
  | none => .ok ()
  | some none => .error (.malformedHeader .contentLength)
  | some (some n) => if n = r.body.size then .ok () else .error .contentLengthMismatch

/-- Lets a request through or tells its first fault. -/
def check (settings : Settings) (r : Request) : Except Fault Unit := do
  if !r.version.isSupported then throw (.versionNotSupported r.version)
  if !r.hasHeader .host then throw .missingHost
  r.checkLength
  if r.method.isSafeRead && r.hasBody then throw (.bodyNotAllowed r.method)
  if settings.maxBodySize < r.body.size then throw (.payloadTooLarge r.body.size)

theorem checkLength_eq_ok_iff (r : Request) :
    r.checkLength = .ok () ↔
      r.statedLength? = none ∨ r.statedLength? = some (some r.body.size) := by
  unfold checkLength
  split
  · next h => simp [h]
  · next h => simp [h]
  · next n h => split <;> simp_all

/-- The faults in the order in which they are looked for. -/
theorem check_eq (settings : Settings) (r : Request) :
    r.check settings
      = if r.version.isSupported = false then .error (.versionNotSupported r.version)
        else if r.hasHeader .host = false then .error .missingHost
        else match r.checkLength with
          | .error fault => .error fault
          | .ok _ =>
            if r.method.isSafeRead = true ∧ r.hasBody = true then .error (.bodyNotAllowed r.method)
            else if settings.maxBodySize < r.body.size then .error (.payloadTooLarge r.body.size)
            else .ok () := by
  rw [check]
  cases r.version.isSupported
  · rfl
  cases r.hasHeader .host
  · rfl
  cases r.checkLength with
  | error fault => rfl
  | ok =>
    cases r.method.isSafeRead <;> cases r.hasBody <;>
      by_cases hsize : settings.maxBodySize < r.body.size <;>
      simp [bind, Except.bind, pure, Except.pure, throw, throwThe, MonadExceptOf.throw, hsize]

theorem check_eq_ok_iff (settings : Settings) (r : Request) :
    r.check settings = .ok () ↔
      r.version.isSupported = true ∧ r.hasHeader .host = true
        ∧ (r.statedLength? = none ∨ r.statedLength? = some (some r.body.size))
        ∧ (r.method.isSafeRead = true → r.hasBody = false)
        ∧ r.body.size ≤ settings.maxBodySize := by
  rw [← checkLength_eq_ok_iff, check_eq]
  cases r.version.isSupported
  · simp
  cases r.hasHeader .host
  · simp
  cases r.checkLength with
  | error fault => simp
  | ok =>
    by_cases hbody : r.method.isSafeRead = true ∧ r.hasBody = true
    · simp [hbody]
    · have hnone : r.method.isSafeRead = true → r.hasBody = false := by simpa using hbody
      by_cases hsize : settings.maxBodySize < r.body.size
      · simp [hbody, hsize, Nat.not_le.2 hsize]
      · simpa [hbody, hsize, Nat.not_lt.1 hsize] using hnone

end Request
end HttpMock
