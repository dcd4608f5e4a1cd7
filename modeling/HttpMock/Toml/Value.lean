/-
# Values of a TOML document

What a document says once it is read: scalars, lists, and tables from keys to values.  The keys of
a table are distinct.  A word in the shape of a number that stands for none is a value too, since a
document that holds it is of use to a reader who never asks for that value; `isReadable` tells
whether a value is free of such words.
-/
import HttpMock.Binary64.Basic

namespace HttpMock
namespace Toml

/-- A value of a document. -/
inductive Value
  | string (text : String)
  | integer (i : Int)
  | float (x : Binary64)
  /-- A word in the shape of a number that stands for none. -/
  | unreadable (word : String)
  | boolean (b : Bool)
  /-- A date, a time of day, or both, as it is written. -/
  | datetime (text : String)
  | array (items : List Value)
  | table (entries : List (String × Value))

/-- The entries of a table. -/
abbrev Table := List (String × Value)

mutual

/-- Whether every number in a value can be read. -/
def Value.isReadable : Value → Bool
  | .unreadable _ => false
  | .array items => areReadable items
  | .table entries => hasReadableEntries entries
  | _ => true

/-- Whether every number in some values can be read. -/
def areReadable : List Value → Bool
  | [] => true
  | v :: values => v.isReadable && areReadable values

/-- Whether every number in the entries of a table can be read. -/
def hasReadableEntries : List (String × Value) → Bool
  | [] => true
  | (_, v) :: entries => v.isReadable && hasReadableEntries entries

end

end Toml
end HttpMock
