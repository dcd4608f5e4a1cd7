/-
# Freshness

A client that already holds some content asks for it on a condition: by the tags of what it holds,
or by the date of what it holds.  Its content is fresh, and need not be sent again, if the response
is an unqualified success to a request that only reads, and

* the request lists tags, and the tag of the response is among them, or
* the request lists no tags, and the content was not modified after the date of the request.

A list of tags is cut at its commas, and the pieces are compared after trimming and without the
mark `W/` of a weak tag; a star stands for every tag.  A date that cannot be read asks for nothing.
-/
import HttpMock.Request.Basic
import HttpMock.Response.Basic
import HttpMock.Text.Blank
import HttpMock.Text.Scan

namespace HttpMock
namespace EntityTag

/-- A tag without the mark of a weak tag, if it has one. -/
def strong (tag : List Char) : List Char := (Text.literal? ['W', '/'] tag).getD tag

/-- Whether a piece of a list of tags stands for a tag. -/
def standsFor (piece tag : List Char) : Bool :=
  let piece := Text.trimChars piece
  piece == ['*'] || strong piece == strong (Text.trimChars tag)

/-- Whether a list of tags names a tag. -/
def isListed (list tag : String) : Bool :=
  (list.toList.splitOn ',').any fun piece => standsFor piece tag.toList

end EntityTag

/-- Reads the date that a header names, if it has one and it can be read. -/
def Headers.readDate? (h : Headers) (name : String) : Option Nat :=
  match h.getDate? name with
  | some (.ok millis) => some millis
  | _ => none

namespace Request

/-- Whether the conditions of a request hold of what a response sends. -/
def conditionHolds (req : Request) (res : Response) : Bool :=
  match req.header? .ifNoneMatch with
  | some list =>
    match res.header? .etag with
    | some tag => EntityTag.isListed list tag
    | none => false
  | none =>
    match req.headers.readDate? RequestHeader.ifModifiedSince.name,
      res.headers.readDate? ResponseHeader.lastModified.name with
    | some since, some modified => modified ≤ since
    | _, _ => false

/-- Whether the client that asks already holds what a response sends. -/
def holdsFresh (req : Request) (res : Response) : Bool :=
  req.method.isSafeRead && res.status == .ok && req.conditionHolds res

end Request
end HttpMock
