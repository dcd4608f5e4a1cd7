/-
# Matchers for one value

A matcher says which values are acceptable where a literal would be too strict.  It looks at one
value, which may be absent: the matchers for texts accept no absent value, the two matchers for
presence look at nothing else, and a predicate decides as it likes.  Matchers are combined into
trees: all of some matchers, or any of them; all of none accepts every value, any of none accepts
no value.

Every matcher describes what it wants in words; literals stand between plain quotes.
-/
import HttpMock.Text.Search

namespace HttpMock

/-- A condition on a value that may be absent. -/
inductive ValueMatcher
  /-- The value is this text. -/
  | equalTo (text : String)
  /-- The value has this text somewhere inside it. -/
  | contains (needle : String)
  /-- The value starts with this text. -/
  | startsWith (needle : String)
  /-- The value ends with this text. -/
  | endsWith (needle : String)
  /-- The value is absent. -/
  | isAbsent
  /-- The value is present. -/
  | isPresent
  /-- Every one of these conditions holds. -/
  | allOf (matchers : List ValueMatcher)
  /-- Some one of these conditions holds. -/
  | anyOf (matchers : List ValueMatcher)
  /-- The condition decided by a function, which is described as it says. -/
  | predicate (description : String) (holds : Option String → Bool)

namespace ValueMatcher

mutual

/-- Whether a value meets the condition. -/
def accepts : ValueMatcher → Option String → Bool
  | equalTo text, actual => actual == some text
  | contains needle, actual => actual.any fun s => Text.occursIn needle.toList s.toList
  | startsWith needle, actual => actual.any fun s => needle.toList.isPrefixOf s.toList
  | endsWith needle, actual => actual.any fun s => needle.toList.isSuffixOf s.toList
  | isAbsent, actual => actual.isNone
  | isPresent, actual => actual.isSome
  | allOf matchers, actual => allAccept matchers actual
  | anyOf matchers, actual => anyAccepts matchers actual
  | predicate _ holds, actual => holds actual

/-- Whether a value meets every one of some conditions. -/
def allAccept : List ValueMatcher → Option String → Bool
  | [], _ => true
  | m :: matchers, actual => m.accepts actual && allAccept matchers actual

/-- Whether a value meets some one of some conditions. -/
def anyAccepts : List ValueMatcher → Option String → Bool
  | [], _ => false
  | m :: matchers, actual => m.accepts actual || anyAccepts matchers actual

end

theorem allAccept_eq_all (matchers : List ValueMatcher) (actual : Option String) :
    allAccept matchers actual = matchers.all (·.accepts actual) := by
  induction matchers with
  | nil => simp [allAccept]
  | cons m matchers ih => simp [allAccept, ih]

theorem anyAccepts_eq_any (matchers : List ValueMatcher) (actual : Option String) :
    anyAccepts matchers actual = matchers.any (·.accepts actual) := by
  induction matchers with
  | nil => simp [anyAccepts]
  | cons m matchers ih => simp [anyAccepts, ih]

@[simp] theorem accepts_allOf (matchers : List ValueMatcher) (actual : Option String) :
    (allOf matchers).accepts actual = matchers.all (·.accepts actual) := by
  rw [accepts, allAccept_eq_all]

@[simp] theorem accepts_anyOf (matchers : List ValueMatcher) (actual : Option String) :
    (anyOf matchers).accepts actual = matchers.any (·.accepts actual) := by
  rw [accepts, anyAccepts_eq_any]

mutual

/-- The condition in words. -/
def describe : ValueMatcher → String
  | equalTo text => "\"" ++ text ++ "\""
  | contains needle => "a string containing \"" ++ needle ++ "\""
  | startsWith needle => "a string starting with \"" ++ needle ++ "\""
  | endsWith needle => "a string ending with \"" ++ needle ++ "\""
  | isAbsent => "null"
  | isPresent => "not null"
  | allOf matchers => "(" ++ " and ".intercalate (describeAll matchers) ++ ")"
  | anyOf matchers => "(" ++ " or ".intercalate (describeAll matchers) ++ ")"
  | predicate description _ => description

/-- Some conditions in words, one after another. -/
def describeAll : List ValueMatcher → List String
  | [] => []
  | m :: matchers => m.describe :: describeAll matchers

end

end ValueMatcher
end HttpMock
