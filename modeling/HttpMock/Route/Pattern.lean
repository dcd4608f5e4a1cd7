/-
# Path patterns

A path is a row of segments between slashes; empty segments do not count, so that slashes may be
doubled or added at the ends.  A pattern is written as a path: a segment in braces stands for any
one segment of the path and binds its name to it, every other segment stands for itself.  A pattern
matches a path of just as many segments, segment by segment; where it binds a name twice the last
segment counts, at the place of the first.
-/
import HttpMock.Request.Basic

namespace HttpMock

/-- One segment of a pattern. -/
inductive Segment
  /-- Stands for itself. -/
  | literal (text : String)
  /-- Stands for any segment, and binds a name to it. -/
  | capture (name : String)
deriving DecidableEq, Repr

/-- A row of segments that a path is compared with. -/
structure Pattern where
  /-- The segments in order. -/
  segments : List Segment
deriving DecidableEq, Repr

/-- The segments of a path that are not empty. -/
def pathSegments (path : String) : List String :=
  ((path.toList.splitOn '/').filter (!·.isEmpty)).map String.ofList

namespace Segment

/-- The name between the braces of a segment, if it stands in braces. -/
def bracedName? (s : List Char) : Option (List Char) :=
  match s with
  | '\x7b' :: r => if r.getLast? = some '\x7d' then some r.dropLast else none
  | _ => none

/-- The segment that a text stands for in a pattern. -/
def ofText (text : String) : Segment :=
  match bracedName? text.toList with
  | some name => capture (String.ofList name)
  | none => literal text

end Segment

namespace Pattern

/-- The pattern written in a text. -/
def ofText (text : String) : Pattern := ⟨(pathSegments text).map Segment.ofText⟩

/-- Goes along the segments of a pattern and of a path and adds to the bindings made so far. -/
def bindSegments? (bound : Params) : List Segment → List String → Option Params
  | [], [] => some bound
  | .literal text :: segments, part :: parts =>
    if text = part then bindSegments? bound segments parts else none
  | .capture name :: segments, part :: parts =>
    bindSegments? (bound.bind name part) segments parts
  | [], _ :: _ => none
  | _ :: _, [] => none

/-- The bindings with which a pattern matches a path, if it does. -/
def match? (p : Pattern) (path : String) : Option Params :=
  bindSegments? .empty p.segments (pathSegments path)

end Pattern
end HttpMock
