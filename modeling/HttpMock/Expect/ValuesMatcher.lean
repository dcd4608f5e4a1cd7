/-
# Matchers for lists of values

A matcher of this kind looks at all values of a header at once, in their order; an absent header
has none.  `Expected` and `ExpectedValues` are what an expectation compares with: a literal, or a
matcher in its place.
-/
import HttpMock.Expect.ValueMatcher

namespace HttpMock

/-- The list in brackets, its members as they are and parted by commas. -/
def describeValues (values : List String) : String := "[" ++ ", ".intercalate values ++ "]"

/-- A condition on a list of values. -/
inductive ValuesMatcher
  /-- Each of these conditions is met by some value of the list. -/
  | hasItems (matchers : List ValueMatcher)
  /-- The list holds these values, in this order, and no others. -/
  | exactly (values : List String)
  /-- The condition decided by a function, which is described as it says. -/
  | predicate (description : String) (holds : List String → Bool)

namespace ValuesMatcher

/-- The list holds no value. -/
def isEmpty : ValuesMatcher := exactly []

/-- Whether a list meets the condition. -/
def accepts : ValuesMatcher → List String → Bool
  | hasItems matchers, actual => matchers.all fun m => actual.any fun v => m.accepts (some v)
  | exactly values, actual => values == actual
  | predicate _ holds, actual => holds actual

/-- The condition in words. -/
def describe : ValuesMatcher → String
  | hasItems matchers =>
    "(" ++ " and ".intercalate (matchers.map fun m => "a collection containing " ++ m.describe)
      ++ ")"
  | exactly values => describeValues values
  | predicate description _ => description

end ValuesMatcher

/-- What the first value of a header is compared with. -/
inductive Expected
  /-- A literal value. -/
  | value (text : String)
  /-- A condition. -/
  | matcher (m : ValueMatcher)

namespace Expected

/-- Whether a value is as expected. -/
def accepts : Expected → Option String → Bool
  | value text, actual => actual == some text
  | matcher m, actual => m.accepts actual

/-- What is expected, in words; a literal stands for itself, without quotes. -/
def describe : Expected → String
  | value text => text
  | matcher m => m.describe

end Expected

/-- What the list of values of a header is compared with. -/
inductive ExpectedValues
  /-- A literal list of values. -/
  | values (list : List String)
  /-- A condition. -/
  | matcher (m : ValuesMatcher)

namespace ExpectedValues

/-- Whether a list is as expected. -/
def accepts : ExpectedValues → List String → Bool
  | values list, actual => list == actual
  | matcher m, actual => m.accepts actual

/-- What is expected, in words. -/
def describe : ExpectedValues → String
  | values list => describeValues list
  | matcher m => m.describe

end ExpectedValues
end HttpMock
