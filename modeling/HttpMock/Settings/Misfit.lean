/-
# Why a table is no settings

A table can hold a key that means nothing, or a value that does not fit its key.  A misfit tells
which, in words that name what was found and what was expected.
-/
import HttpMock.Binary64.Shortest
import HttpMock.Logging
import HttpMock.Text.Quoted
import HttpMock.Toml.Value

namespace HttpMock

/-- What a key expects. -/
inductive Expecting
  /-- Any text. -/
  | text
  /-- A count that fits in 64 bits. -/
  | size
  /-- A truth value. -/
  | flag
  /-- The settings of the log. -/
  | logger
deriving DecidableEq, Repr

/-- Why a table is no settings. -/
inductive Misfit
  /-- A key means nothing; the keys that do are listed. -/
  | unknownField (key : String) (known : List String)
  /-- A value is of the wrong kind. -/
  | wrongKind (found : Toml.Value) (expecting : Expecting)
  /-- A count is negative. -/
  | negativeSize (i : Int)
  /-- A text names no log level. -/
  | unknownLevel (name : String)
  /-- A log level is neither a text nor a table. -/
  | levelOfWrongKind
  /-- A log level is a table without entries. -/
  | levelWithoutEntry
  /-- A log level is a table with more than one entry. -/
  | levelWithMoreEntries
  /-- The entry of a log level is a list with items. -/
  | levelWithItems
  /-- The entry of a log level is a table with entries. -/
  | levelWithEntries
  /-- The entry of a log level is neither a list nor a table. -/
  | levelWithScalar (found : Toml.Value)

namespace Expecting

/-- What is expected, in words. -/
def describe : Expecting → String
  | text => "a string"
  | size => "usize"
  | flag => "a boolean"
  | logger => "struct LoggerConfig"

end Expecting

namespace Toml.Value

/-- The value and its kind, in words; lists, tables and dates are named by their kind alone. -/
def describe : Value → String
  | string text => "string " ++ Text.quote text
  | integer i => "integer `" ++ Text.decimalInt i ++ "`"
  | float x => "floating point `" ++ x.render ++ "`"
  | unreadable word => "number `" ++ word ++ "`"
  | boolean b => "boolean `" ++ (if b then "true" else "false") ++ "`"
  | array _ => "sequence"
  | datetime _ | table _ => "map"

/-- The kind of the value, in one word. -/
def kind : Value → String
  | string _ => "string"
  | integer _ => "integer"
  | float _ => "float"
  | unreadable _ => "number"
  | boolean _ => "boolean"
  | datetime _ => "datetime"
  | array _ => "array"
  | table _ => "table"

end Toml.Value

namespace Misfit

/-- Names between back quotes, in words. -/
def describeNames (names : List String) : String :=
  match names.map fun name => "`" ++ name ++ "`" with
  | [name] => name
  | names => "one of " ++ ", ".intercalate names

/-- The wording of the misfit. -/
def message : Misfit → String
  | unknownField key known =>
    "unknown field `" ++ key ++ "`, expected " ++ describeNames known
  | wrongKind found expecting =>
    "invalid type: " ++ found.describe ++ ", expected " ++ expecting.describe
  | negativeSize i =>
    "invalid value: integer `" ++ Text.decimalInt i ++ "`, expected " ++ Expecting.size.describe
  | unknownLevel name =>
    "unknown variant `" ++ name ++ "`, expected " ++ describeNames (LogLevel.all.map LogLevel.name)
  | levelOfWrongKind => "wanted string or table"
  | levelWithoutEntry => "wanted exactly 1 element, found 0 elements"
  | levelWithMoreEntries => "wanted exactly 1 element, more than 1 element"
  | levelWithItems => "expected empty array"
  | levelWithEntries => "expected empty table"
  | levelWithScalar found => "expected table, found " ++ found.kind

end Misfit
end HttpMock
