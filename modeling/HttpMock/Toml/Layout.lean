/-
# The layout of a TOML document

Spaces and tabs part the words of a line.  A comment runs from a number sign to the end of its
line.  A line ends with a line feed, before which a carriage return may stand; a carriage return
alone is not allowed anywhere, nor is any other control character but the tab.
-/

namespace HttpMock
namespace Toml

/-- A character that may stand in a comment or in a text of one line. -/
def isLineChar (c : Char) : Bool := c == '\t' || (0x20 ≤ c.toNat && c.toNat != 0x7F)

/-- What is left of a text after its spaces and tabs. -/
def skipBlanks (s : List Char) : List Char := s.dropWhile fun c => c == ' ' || c == '\t'

/-- What is left of a text after the line end with which it starts. -/
def lineEnd? : List Char → Option (List Char)
  | '\n' :: s => some s
  | '\r' :: '\n' :: s => some s
  | _ => none

/-- What is left of a text after its blanks and line ends. -/
def skipBlankLines : List Char → List Char
  | ' ' :: s => skipBlankLines s
  | '\t' :: s => skipBlankLines s
  | '\n' :: s => skipBlankLines s
  | '\r' :: '\n' :: s => skipBlankLines s
  | s => s

/-- What is left of a text after blanks, comments and line ends, provided that they are well
formed; `inComment` tells whether the text starts inside a comment. -/
def skipLines? (inComment : Bool) : List Char → Option (List Char)
  | [] => some []
  | '\n' :: s => skipLines? false s
  | '\r' :: '\n' :: s => skipLines? false s
  | c :: s =>
    if inComment then (if isLineChar c then skipLines? true s else none)
    else if c == ' ' || c == '\t' then skipLines? false s
    else if c == '#' then skipLines? true s
    else some (c :: s)

/-- What is left of a text after the rest of a comment, which is well formed, up to its line end. -/
def skipComment? (s : List Char) : Option (List Char) :=
  match s.dropWhile isLineChar with
  | [] => some []
  | r => if (lineEnd? r).isSome then some r else none

/-- What is left of a text after the end of a line: blanks, perhaps a comment, and the line end or
the end of the document. -/
def endLine? (s : List Char) : Option (List Char) :=
  match skipBlanks s with
  | [] => some []
  | '#' :: r => (skipComment? r).map fun r => (lineEnd? r).getD []
  | r => lineEnd? r

end Toml
end HttpMock
