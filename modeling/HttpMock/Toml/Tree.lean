/-
# Tables under construction

While a document is read its tables are still open, and what may be added to a table depends on
how it came about: by a header of its own, because the header of a table inside it implied it, or
because a dotted key led through it.  A header may complete a table that was only implied.  A key
may be put into a table that a dotted key made only by dotted keys; and no key may lead through a
table that has a header of its own.  Values, inline tables among them, are closed, and no key is
given twice.
-/
import HttpMock.Toml.Value

namespace HttpMock
namespace Toml

/-- How a table came about. -/
inductive Origin
  /-- By a header of its own. -/
  | header
  /-- By the header of a table inside it. -/
  | implied
  /-- By a dotted key that led through it. -/
  | dotted
deriving DecidableEq, Repr

/-- What stands under a key of a table under construction. -/
inductive Node
  /-- A finished value. -/
  | leaf (v : Value)
  /-- A list of tables, to which headers add; the newest comes first. -/
  | elements (tables : List Node)
  /-- A table. -/
  | branch (origin : Origin) (entries : List (String × Node))

/-- The entries of a table under construction. -/
abbrev Entries := List (String × Node)

/-- Puts something under a key, depending on what stands there; a new key comes last. -/
def alter? (key : String) (change : Option Node → Option Node) : Entries → Option Entries
  | [] => (change none).map fun n => [(key, n)]
  | (k, n) :: entries =>
    if k = key then (change (some n)).map fun n => (k, n) :: entries
    else (alter? key change entries).map fun entries => (k, n) :: entries

/-- Changes the entries of the newest of some tables. -/
def alterNewest? (change : Entries → Option Entries) : List Node → Option (List Node)
  | .branch origin entries :: tables =>
    (change entries).map fun entries => .branch origin entries :: tables
  | _ => none

/-- Puts a value at the end of a path of keys.  `direct` tells whether the last key may be put into
the table at hand: the one whose keys are being given, or one that a dotted key made. -/
def assign? (v : Value) (direct : Bool) : List String → Entries → Option Entries
  | [], _ => none
  | [key], entries =>
    alter? key (fun n => if n.isNone && direct then some (.leaf v) else none) entries
  | key :: path, entries =>
    alter? key
      (fun n =>
        match n with
        | none => (assign? v true path []).map (.branch .dotted)
        | some (.branch .dotted inner) => (assign? v true path inner).map (.branch .dotted)
        | some (.branch .implied inner) => (assign? v false path inner).map (.branch .implied)
        | some (.elements tables) => (alterNewest? (assign? v false path) tables).map .elements
        | some (.branch .header _) => none
        | some (.leaf _) => none)
      entries

/-- Puts values at the ends of paths, one after another. -/
def assignAll? (pairs : List (List String × Value)) (entries : Entries) : Option Entries :=
  pairs.foldlM (fun entries (path, v) => assign? v true path entries) entries

/-- Changes the table at the end of a path of header keys; the tables on the way are implied. -/
def within? (change : Entries → Option Entries) : List String → Entries → Option Entries
  | [], entries => change entries
  | key :: path, entries =>
    alter? key
      (fun n =>
        match n with
        | none => (within? change path []).map (.branch .implied)
        | some (.branch origin inner) => (within? change path inner).map (.branch origin)
        | some (.elements tables) => (alterNewest? (within? change path) tables).map .elements
        | some (.leaf _) => none)
      entries

/-- The header of a table, or of one more table of a list. -/
structure Header where
  /-- Whether the header adds a table to a list. -/
  isElement : Bool
  /-- The keys on the way to the table or the list. -/
  path : List String
  /-- The key of the table or the list. -/
  key : String
deriving DecidableEq, Repr

/-- Adds the table of a header, with the values that are given under it. -/
def addTable? (h : Header) (pairs : List (List String × Value)) (root : Entries) :
    Option Entries :=
  let table (entries : Entries) : Option Node := (assignAll? pairs entries).map (.branch .header)
  within?
    (alter? h.key fun n =>
      match h.isElement, n with
      | false, none => table []
      | false, some (.branch .implied entries) => table entries
      | true, none => (table []).map fun t => .elements [t]
      | true, some (.elements tables) => (table []).map fun t => .elements (t :: tables)
      | _, _ => none)
    h.path root

mutual

/-- The finished value of a node. -/
def Node.toValue : Node → Value
  | .leaf v => v
  | .elements tables => .array (toValues tables).reverse
  | .branch _ entries => .table (toTable entries)

/-- The finished values of some nodes. -/
def toValues : List Node → List Value
  | [] => []
  | n :: nodes => n.toValue :: toValues nodes

/-- The finished table of some entries. -/
def toTable : List (String × Node) → Table
  | [] => []
  | (key, n) :: entries => (key, n.toValue) :: toTable entries

end

end Toml
end HttpMock
