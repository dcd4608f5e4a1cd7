/-
# Header maps

A header map keeps, for every header name, an ordered list of values.  Names are compared without
regard to ASCII case; the spelling under which a header was first stored is kept, and the headers
stay in the order in which they were first stored.  Setting a header replaces its values where it
stands, appending adds one value at the end of its list, and removing it closes the gap it leaves.
A header with an empty value is present; only a header that is not there has no value.

Two maps are equal for `Headers.agrees` if they hold the same headers, in whatever order, with the
same spellings and the same lists of values.
-/
import HttpMock.HttpDate.Basic

namespace HttpMock

/-- One header of a map. -/
structure Field where
  /-- The name in lower case, under which the header is looked up. -/
  key : String
  /-- The name as it was first spelled. -/
  name : String
  /-- The values, oldest first. -/
  values : List String
deriving DecidableEq, Repr

/-- An ordered map from header names to lists of values. -/
structure Headers where
  /-- The headers in the order in which they were first stored. -/
  fields : List Field
deriving DecidableEq, Repr

namespace Headers

/-- The form of a name in which spellings that differ only in ASCII case are the same. -/
def key (name : String) : String := name.toLower

/-- The map without headers. -/
def empty : Headers := ⟨[]⟩

instance : Inhabited Headers := ⟨empty⟩

/-- The header of a name, whatever the spelling. -/
def find? (h : Headers) (name : String) : Option Field :=
  h.fields.find? fun f => f.key == key name

/-- All values of a header, oldest first; none if the header is absent. -/
def getAll (h : Headers) (name : String) : List String :=
  match h.find? name with
  | some f => f.values
  | none => []

/-- The first value of a header. -/
def get? (h : Headers) (name : String) : Option String := (h.find? name).bind (·.values.head?)

/-- Whether the map has a header. -/
def contains (h : Headers) (name : String) : Bool := (h.find? name).isSome

/-- The count of headers. -/
def size (h : Headers) : Nat := h.fields.length

/-- Whether the map has no header. -/
def isEmpty (h : Headers) : Bool := h.fields.isEmpty

/-- The headers in order, each with the kept spelling of its name and its values. -/
def toList (h : Headers) : List (String × List String) := h.fields.map fun f => (f.name, f.values)

/-- Rewrites the values of the header with a key; a header that is not there is added at the end
under the given spelling, with what the rewriting makes of no values. -/
def updateFields (name : String) (rewrite : List String → List String) : List Field → List Field
  | [] => [⟨key name, name, rewrite []⟩]
  | f :: fields =>
    if f.key = key name then { f with values := rewrite f.values } :: fields
    else f :: updateFields name rewrite fields

/-- Gives a header one value in place of those it has. -/
def set (h : Headers) (name value : String) : Headers :=
  ⟨updateFields name (fun _ => [value]) h.fields⟩

/-- Adds a value to those of a header. -/
def append (h : Headers) (name value : String) : Headers :=
  ⟨updateFields name (· ++ [value]) h.fields⟩

/-- Adds values one after another to those of a header. -/
def appendAll (h : Headers) (name : String) (values : List String) : Headers :=
  values.foldl (fun h value => h.append name value) h

/-- The map without a header. -/
def erase (h : Headers) (name : String) : Headers :=
  ⟨h.fields.filter fun f => f.key != key name⟩

/-- Removes a header and tells the values it had. -/
def remove (h : Headers) (name : String) : Option (List String) × Headers :=
  ((h.find? name).map (·.values), h.erase name)

/-- Gives a header the HTTP-date of an instant as its one value, and tells whether there is one; an
instant without an HTTP-date leaves the map as it is. -/
def setDate (h : Headers) (name : String) (millis : Nat) : Except DateError Unit × Headers :=
  match HttpDate.write millis with
  | .ok text => (.ok (), h.set name text)
  | .error e => (.error e, h)

/-- Reads the first value of a header as an HTTP-date. -/
def getDate? (h : Headers) (name : String) : Option (Except DateError Nat) :=
  (h.get? name).map HttpDate.read

/-- The lines of the map, one for each value. -/
def render (h : Headers) : String :=
  String.join (h.toList.flatMap fun (name, values) =>
    values.map fun value => name ++ ": " ++ value ++ "\r\n")

/-- Whether two maps hold the same headers, in whatever order. -/
def agrees (h k : Headers) : Bool :=
  h.size == k.size
    && h.fields.all fun f => k.fields.find? (fun g => g.key == f.key) == some f

end Headers
end HttpMock
