/-
# Reading a TOML document

A document is a row of lines: keys with values, and headers that open a table or add one to a list
of tables.  The values are read first, line by line, then the tables are put together in the order
of the lines.  A document is read as a whole or not at all.

Lists and inline tables may be nested to the depth `maxDepth`; both may run over several lines,
with comments in them, and may end with a comma.  A key has at most `maxKeyParts` parts and stands
on one line.
-/
import HttpMock.Toml.Scalar
import HttpMock.Toml.Tree

namespace HttpMock
namespace Toml

/-- How deep lists and inline tables may be nested. -/
def maxDepth : Nat := 80

/-- How many parts a key may have. -/
def maxKeyParts : Nat := 80

/-- A character of a key that stands without quotes. -/
def isBareKeyChar (c : Char) : Bool := c.isAlphanum || c == '_' || c == '-'

/-- Reads a key of one part. -/
def simpleKey? (s : List Char) : Option (String × List Char) :=
  match s with
  | '"' :: _ | '\'' :: _ => lineString? s
  | _ =>
    let key := s.takeWhile isBareKeyChar
    if key.isEmpty then none else some (String.ofList key, s.dropWhile isBareKeyChar)

/-- Reads at most `bound` parts of a key, which are joined by points. -/
def keyParts? : Nat → List Char → Option (List String × List Char)
  | 0, _ => none
  | bound + 1, s =>
    match simpleKey? s with
    | none => none
    | some (part, r) =>
      match skipBlanks r with
      | '.' :: r => (keyParts? bound (skipBlanks r)).map fun (parts, r) => (part :: parts, r)
      | r => some ([part], r)

/-- Reads a key, unless it has too many parts. -/
def key? (s : List Char) : Option (List String × List Char) := keyParts? maxKeyParts s

/-- Reads at most `bound` items parted by commas, and a closing mark.  Blanks, comments and line
ends may stand between them, and a comma may stand after the last. -/
def itemsUpTo? (close : Char) (item? : List Char → Option (α × List Char)) :
    Nat → List Char → Option (List α × List Char)
  | 0, _ => none
  | bound + 1, s =>
    match skipLines? false s with
    | none | some [] => none
    | some (c :: r) =>
      if c = close then some ([], r)
      else
        match item? (c :: r) with
        | none => none
        | some (a, r) =>
          match skipLines? false r with
          | none | some [] => none
          | some (d :: r) =>
            if d = close then some ([a], r)
            else if d = ',' then
              (itemsUpTo? close item? bound r).map fun (as, r) => (a :: as, r)
            else none

/-- Reads items up to a closing mark; every item takes a character, so their count is bounded. -/
def items? (close : Char) (item? : List Char → Option (α × List Char)) (s : List Char) :
    Option (List α × List Char) :=
  itemsUpTo? close item? s.length s

/-- Reads a key, the sign of equality and a value; `skip?` goes over what may stand on either side
of the sign. -/
def pair? (skip? : List Char → Option (List Char)) (value? : List Char → Option (Value × List Char))
    (s : List Char) : Option ((List String × Value) × List Char) := do
  let (path, s) ← key? s
  match ← skip? s with
  | '=' :: s => do
    let s ← skip? s
    (value? s).map fun (v, s) => ((path, v), s)
  | _ => none

/-- Reads a value in which lists and inline tables are nested no deeper than `depth`. -/
def value? (depth : Nat) (s : List Char) : Option (Value × List Char) :=
  match s, depth with
  | '"' :: _, _ | '\'' :: _, _ => (string? s).map fun (text, r) => (.string text, r)
  | '[' :: _, 0 | '\x7b' :: _, 0 => none
  | '[' :: r, depth + 1 =>
    (items? ']' (value? depth) r).map fun (items, r) => (.array items, r)
  | '\x7b' :: r, depth + 1 =>
    match items? '\x7d' (pair? (skipLines? false) (value? depth)) r with
    | none => none
    | some (pairs, r) => (assignAll? pairs []).map fun entries => (.table (toTable entries), r)
  | s, _ =>
    let (w, r) := word s
    (Value.ofWord? w).map fun v => (v, r)

/-- What a line says. -/
inductive Line
  /-- A value is given under a key of the table that is open. -/
  | pair (path : List String) (v : Value)
  /-- Another table is opened. -/
  | header (h : Header)

/-- Reads the keys of a header up to its closing mark. -/
def header? (isElement : Bool) (close s : List Char) : Option (Line × List Char) := do
  let (path, s) ← key? (skipBlanks s)
  let s ← Text.literal? close (skipBlanks s)
  let key ← path.getLast?
  some (.header ⟨isElement, path.dropLast, key⟩, s)

/-- Reads what a line says. -/
def line? (s : List Char) : Option (Line × List Char) :=
  match s with
  | '[' :: '[' :: s => header? true [']', ']'] s
  | '[' :: s => header? false [']'] s
  | s =>
    (pair? (fun s => some (skipBlanks s)) (value? maxDepth) s).map fun ((path, v), s) =>
      (.pair path v, s)

/-- Reads at most `bound` lines, up to the end of the document. -/
def linesUpTo? : Nat → List Char → Option (List Line)
  | 0, _ => none
  | bound + 1, s =>
    match skipLines? false s with
    | none => none
    | some [] => some []
    | some s =>
      match line? s with
      | none => none
      | some (line, r) =>
        match endLine? r with
        | none => none
        | some r => (linesUpTo? bound r).map fun lines => line :: lines

/-- Reads all lines of a document; every line takes a character, so their count is bounded. -/
def lines? (s : List Char) : Option (List Line) := linesUpTo? (s.length + 1) s

/-- The values given before the first header, and the headers with the values given under them. -/
def sections : List Line → List (List String × Value) × List (Header × List (List String × Value))
  | [] => ([], [])
  | .pair path v :: lines =>
    let (pairs, rest) := sections lines
    ((path, v) :: pairs, rest)
  | .header h :: lines =>
    let (pairs, rest) := sections lines
    ([], (h, pairs) :: rest)

/-- The table that some lines make. -/
def build? (lines : List Line) : Option Table := do
  let (pairs, rest) := sections lines
  let root ← assignAll? pairs []
  let root ← rest.foldlM (fun root (h, pairs) => addTable? h pairs root) root
  some (toTable root)

/-- The table that a document makes; a byte-order mark at its start does not count. -/
def read? (text : String) : Option Table :=
  let s := text.toList
  (lines? ((Text.literal? ['\uFEFF'] s).getD s)).bind build?

end Toml
end HttpMock
