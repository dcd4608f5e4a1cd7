/-
# Expectations

An expectation is checked on a response and either holds or tells its failure.  The expectations
about a header look at its first value as a text, a date or an integer, at all its values, or only
at whether it is there.  Dates are compared by whole seconds, and integers by their value, not by
their spelling.  Expectations in a row are checked in order, up to the first that fails.
-/
import HttpMock.Expect.Failure
import HttpMock.Expect.ValuesMatcher
import HttpMock.Response.Basic

namespace HttpMock

/-- An expectation about one header. -/
inductive HeaderExpectation
  /-- The first value is as expected; an absent header has no first value. -/
  | value (name : String) (expected : Expected)
  /-- The list of values is as expected; an absent header has no values. -/
  | values (name : String) (expected : ExpectedValues)
  /-- The first value is an HTTP-date in the second of an instant, in milliseconds. -/
  | date (name : String) (millis : Nat)
  /-- The first value is an integer, and this one. -/
  | integer (name : String) (expected : Int)
  /-- The header is there. -/
  | isPresent (name : String)
  /-- The header is not there. -/
  | isAbsent (name : String)

namespace HeaderExpectation

/-- The list of values meets a condition. -/
def valuesMatching (name : String) (m : ValuesMatcher) : HeaderExpectation :=
  values name (.matcher m)

/-- The header has no values. -/
def noValues (name : String) : HeaderExpectation := values name (.values [])

/-- The header that is looked at. -/
def name : HeaderExpectation → String
  | value name _ | values name _ | date name _ | integer name _ | isPresent name
  | isAbsent name => name

/-- The first value of a header that has to be there. -/
def required (response : Response) (name : String) : Except Failure String :=
  match response.headers.get? name with
  | some text => .ok text
  | none => .error (.headerMissing name)

/-- The date that is expected, as it is told in a failure. -/
def describeDate (millis : Nat) : String :=
  match HttpDate.write millis with
  | .ok text => text
  | .error _ => Text.decimal millis ++ " ms since epoch"

/-- Checks that a value is an HTTP-date in the second of an instant. -/
def checkDate (name : String) (millis : Nat) (text : String) : Except Failure Unit :=
  match HttpDate.read text with
  | .error _ => .error (.notADate name text)
  | .ok actual =>
    if actual = HttpDate.truncate millis then .ok ()
    else .error (.headerMismatch name (describeDate millis) text)

/-- Checks that a value is an integer, and which. -/
def checkInteger (name : String) (expected : Int) (text : String) : Except Failure Unit :=
  match Text.signed64? (Text.trimChars text.toList) with
  | none => .error (.notAnInteger name text)
  | some actual =>
    if actual = expected then .ok ()
    else .error (.headerMismatch name (Text.decimalInt expected) text)

/-- Checks the expectation on a response. -/
def check (response : Response) : HeaderExpectation → Except Failure Unit
  | value name expected =>
    let actual := response.headers.get? name
    if expected.accepts actual then .ok ()
    else .error (.headerMismatch name expected.describe (actual.getD Failure.absent))
  | values name expected =>
    let actual := response.headers.getAll name
    if expected.accepts actual then .ok ()
    else .error (.headerMismatch name expected.describe (describeValues actual))
  | date name millis => (required response name).bind (checkDate name millis)
  | integer name expected => (required response name).bind (checkInteger name expected)
  | isPresent name => (required response name).map fun _ => ()
  | isAbsent name =>
    if response.headers.contains name then .error (.headerPresent name) else .ok ()

end HeaderExpectation

/-- An expectation about the code of the status. -/
structure StatusExpectation where
  /-- The code that is expected. -/
  code : Nat
deriving DecidableEq, Repr

namespace StatusExpectation

/-- The status is this one. -/
def ofStatus (status : Status) : StatusExpectation := ⟨status.code⟩

/-- Checks the expectation on a response. -/
def check (response : Response) (e : StatusExpectation) : Except Failure Unit :=
  if response.status.code = e.code then .ok ()
  else .error (.statusMismatch e.code response.status.code)

end StatusExpectation

/-- Anything that can be expected of a response. -/
inductive Expectation
  /-- An expectation about a header. -/
  | header (e : HeaderExpectation)
  /-- An expectation about the status. -/
  | status (e : StatusExpectation)
  /-- The expectation that a function checks. -/
  | custom (check : Response → Except Failure Unit)

namespace Expectation

/-- Checks the expectation on a response. -/
def check (response : Response) : Expectation → Except Failure Unit
  | header e => e.check response
  | status e => e.check response
  | custom check => check response

/-- Checks expectations in order: the count of those that held before the first failure, and that
failure if there is one. -/
def checkAll (response : Response) : List Expectation → Nat × Option Failure
  | [] => (0, none)
  | e :: expectations =>
    match e.check response with
    | .error failure => (0, some failure)
    | .ok _ =>
      let (passed, failure) := checkAll response expectations
      (passed + 1, failure)

end Expectation
end HttpMock
