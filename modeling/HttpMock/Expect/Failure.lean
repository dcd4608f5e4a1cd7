/-
# Failures

A failure says why an expectation does not hold of a response.  That a header is not there is told
apart from its having the wrong value, and a value that cannot be read from one that was read and
differs.  Every failure about a header tells the name as the expectation spells it.
-/
import HttpMock.Text.Numeral

namespace HttpMock

/-- Why an expectation does not hold. -/
inductive Failure
  /-- The header is not there. -/
  | headerMissing (name : String)
  /-- The header is there, and should not be. -/
  | headerPresent (name : String)
  /-- The header is not as expected. -/
  | headerMismatch (name expected actual : String)
  /-- The value of the header is no date. -/
  | notADate (name value : String)
  /-- The value of the header is no integer. -/
  | notAnInteger (name value : String)
  /-- The code of the status is not as expected. -/
  | statusMismatch (expected actual : Nat)
  /-- Some other condition does not hold. -/
  | custom (text : String)
deriving DecidableEq, Repr

namespace Failure

/-- The word for the value of a header that is not there. -/
def absent : String := "null"

/-- The header that the failure is about, if it is about one. -/
def headerName? : Failure → Option String
  | headerMissing name | headerPresent name | headerMismatch name _ _ | notADate name _
  | notAnInteger name _ => some name
  | statusMismatch _ _ | custom _ => none

/-- The wording of the failure. -/
def message : Failure → String
  | headerMissing name => "Response does not contain header '" ++ name ++ "'"
  | headerPresent name => "Response should not contain header '" ++ name ++ "'"
  | headerMismatch name expected actual =>
    "Response header '" ++ name ++ "' expected:<" ++ expected ++ "> but was:<" ++ actual ++ ">"
  | notADate name value =>
    "Response header '" ++ name ++ "'='" ++ value ++ "' is not a valid HTTP-date"
  | notAnInteger name value =>
    "Response header '" ++ name ++ "'='" ++ value ++ "' is not a valid integer"
  | statusMismatch expected actual =>
    "Status expected:<" ++ Text.decimal expected ++ "> but was:<" ++ Text.decimal actual ++ ">"
  | custom text => text

end Failure
end HttpMock
