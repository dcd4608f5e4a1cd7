/-
# Histories of a header map

An edit is one change of a header map, as a value.  A list of edits is the history of the map that
they make when they are done in order, starting from a map without headers.  An edit that cannot be
done, because its date has no HTTP-date, changes nothing.
-/
import HttpMock.Headers.Basic

namespace HttpMock
namespace Headers

/-- One change of a header map. -/
inductive Edit
  /-- Gives a header one value in place of those it has. -/
  | set (name value : String)
  /-- Adds a value to those of a header. -/
  | append (name value : String)
  /-- Removes a header. -/
  | remove (name : String)
  /-- Gives a header the HTTP-date of an instant as its one value. -/
  | setDate (name : String) (millis : Nat)
deriving DecidableEq, Repr

/-- The map after an edit. -/
def edit (h : Headers) : Edit → Headers
  | .set name value => h.set name value
  | .append name value => h.append name value
  | .remove name => h.erase name
  | .setDate name millis => (h.setDate name millis).2

/-- The map that a history of edits makes. -/
def ofEdits (edits : List Edit) : Headers := edits.foldl edit empty

@[simp] theorem ofEdits_append (edits more : List Edit) :
    ofEdits (edits ++ more) = more.foldl edit (ofEdits edits) := by
  simp [ofEdits]

end Headers
end HttpMock
