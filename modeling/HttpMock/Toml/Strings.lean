/-
# Strings of a TOML document

A string stands between quotes: in double quotes with escapes, or in single quotes without; in
three quotes of either kind it may run over several lines.  A line end right after the opening of
such a string does not count, and up to two quotes may stand right before its close.  In double
quotes a backslash at the end of a line swallows the line end and all blanks and line ends after
it.
-/
import HttpMock.Toml.Layout

namespace HttpMock
namespace Toml

/-- The number that a hexadecimal digit stands for. -/
def hexDigit? (c : Char) : Option Nat :=
  if '0' ≤ c && c ≤ '9' then some (c.toNat - '0'.toNat)
  else if 'a' ≤ c && c ≤ 'f' then some (c.toNat - 'a'.toNat + 10)
  else if 'A' ≤ c && c ≤ 'F' then some (c.toNat - 'A'.toNat + 10)
  else none

/-- The character whose code point stands in the first `width` hexadecimal digits of a text. -/
def codePoint? (width : Nat) (s : List Char) : Option (Char × List Char) :=
  let digits := s.take width
  if digits.length < width then none
  else
    match digits.mapM hexDigit? with
    | none => none
    | some ds =>
      let n := ds.foldl (fun n d => 16 * n + d) 0
      if n < 0xD800 ∨ (0xE000 ≤ n ∧ n < 0x110000) then some (Char.ofNat n, s.drop width) else none

/-- The character that an escape stands for; the text starts after the backslash. -/
def escape? : List Char → Option (Char × List Char)
  | 'b' :: s => some ('\x08', s)
  | 't' :: s => some ('\t', s)
  | 'n' :: s => some ('\n', s)
  | 'f' :: s => some ('\x0c', s)
  | 'r' :: s => some ('\r', s)
  | 'e' :: s => some ('\x1b', s)
  | '"' :: s => some ('"', s)
  | '\\' :: s => some ('\\', s)
  | 'x' :: s => codePoint? 2 s
  | 'u' :: s => codePoint? 4 s
  | 'U' :: s => codePoint? 8 s
  | _ => none

/-- Reads at most `bound` pieces of a string and its close, and joins what they stand for.  Each
reader answers what it has read and what is left. -/
def untilClose? (close? piece? : List Char → Option (List Char × List Char)) :
    Nat → List Char → Option (List Char × List Char)
  | 0, _ => none
  | bound + 1, s =>
    match close? s with
    | some closed => some closed
    | none =>
      match piece? s with
      | none => none
      | some (piece, r) =>
        (untilClose? close? piece? bound r).map fun (text, r) => (piece ++ text, r)

/-- Reads a string up to its close; every piece takes a character, so their count is bounded. -/
def stringBody? (close? piece? : List Char → Option (List Char × List Char)) (s : List Char) :
    Option (String × List Char) :=
  (untilClose? close? piece? s.length s).map fun (text, r) => (.ofList text, r)

/-- Reads the quote that closes a string of one line. -/
def closeLine? (quote : Char) : List Char → Option (List Char × List Char)
  | c :: s => if c = quote then some ([], s) else none
  | [] => none

/-- Reads the three quotes that close a string of several lines, with the quotes before them. -/
def closeLines? (quote : Char) (s : List Char) : Option (List Char × List Char) :=
  let quotes := (s.takeWhile (· == quote)).length
  if quotes < 3 then none
  else
    let extra := min (quotes - 3) 2
    some (List.replicate extra quote, s.drop (extra + 3))

/-- Reads a character of a string of one line as it stands. -/
def plain? : List Char → Option (List Char × List Char)
  | c :: s => if isLineChar c then some ([c], s) else none
  | [] => none

/-- Reads a character of a string of several lines, or a line end, as it stands. -/
def plainOrLineEnd? : List Char → Option (List Char × List Char)
  | '\n' :: s => some (['\n'], s)
  | '\r' :: '\n' :: s => some (['\r', '\n'], s)
  | s => plain? s

/-- Reads an escape, or else a piece of another kind. -/
def escaped? (piece? : List Char → Option (List Char × List Char)) :
    List Char → Option (List Char × List Char)
  | '\\' :: s => (escape? s).map fun (c, r) => ([c], r)
  | s => piece? s

/-- Reads a backslash at the end of a line with the blank lines after it, or else a piece of
another kind. -/
def joined? (piece? : List Char → Option (List Char × List Char)) (s : List Char) :
    Option (List Char × List Char) :=
  match s with
  | '\\' :: r =>
    match lineEnd? (skipBlanks r) with
    | some r => some ([], skipBlankLines r)
    | none => piece? s
  | _ => piece? s

/-- What is left of a string of several lines after a line end right at its start. -/
def skipFirstLineEnd (s : List Char) : List Char := (lineEnd? s).getD s

/-- Reads a string of one line; the text starts with its quote. -/
def lineString? : List Char → Option (String × List Char)
  | '"' :: s => stringBody? (closeLine? '"') (escaped? plain?) s
  | '\'' :: s => stringBody? (closeLine? '\'') plain? s
  | _ => none

/-- Reads a string of either kind; the text starts with its quote. -/
def string? : List Char → Option (String × List Char)
  | '"' :: '"' :: '"' :: s =>
    stringBody? (closeLines? '"') (joined? (escaped? plainOrLineEnd?)) (skipFirstLineEnd s)
  | '\'' :: '\'' :: '\'' :: s =>
    stringBody? (closeLines? '\'') plainOrLineEnd? (skipFirstLineEnd s)
  | s => lineString? s

end Toml
end HttpMock
