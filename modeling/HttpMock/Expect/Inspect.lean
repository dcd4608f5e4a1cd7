/-
# Expectations spelled out

An expectation is spelled out as a record: the kind of the expectation, and its fields in braces
with their names.  Texts are quoted, lists stand in brackets, and a matcher is given by its
description as it is.
-/
import HttpMock.Expect.Expectation
import HttpMock.Text.Quoted

namespace HttpMock

/-- The record of a kind with fields, spelled out. -/
def inspectRecord (kind : String) (fields : List (String × String)) : String :=
  kind ++ " \x7b " ++ ", ".intercalate (fields.map fun (name, value) => name ++ ": " ++ value)
    ++ " \x7d"

/-- The list, spelled out. -/
def inspectList (items : List String) : String := "[" ++ ", ".intercalate items ++ "]"

/-- What a value is compared with, spelled out. -/
def Expected.inspect : Expected → String
  | value text => "Value(" ++ Text.quote text ++ ")"
  | matcher m => "Matcher(" ++ m.describe ++ ")"

/-- What a list is compared with, spelled out. -/
def ExpectedValues.inspect : ExpectedValues → String
  | values list => "Values(" ++ inspectList (list.map Text.quote) ++ ")"
  | matcher m => "Matcher(" ++ m.describe ++ ")"

/-- The expectation, spelled out. -/
def HeaderExpectation.inspect : HeaderExpectation → String
  | value name expected =>
    inspectRecord "StringEquals" [("name", Text.quote name), ("expected", expected.inspect)]
  | values name expected =>
    inspectRecord "MultiValueEquals" [("name", Text.quote name), ("expected", expected.inspect)]
  | date name millis =>
    inspectRecord "DateEquals" [("name", Text.quote name), ("epoch_millis", Text.decimal millis)]
  | integer name expected =>
    inspectRecord "LongEquals" [("name", Text.quote name), ("expected", Text.decimalInt expected)]
  | isPresent name => inspectRecord "Exists" [("name", Text.quote name)]
  | isAbsent name => inspectRecord "DoesNotExist" [("name", Text.quote name)]

/-- The expectation, spelled out. -/
def StatusExpectation.inspect (e : StatusExpectation) : String :=
  inspectRecord "StatusAssertion" [("expected", Text.decimal e.code)]

end HttpMock
