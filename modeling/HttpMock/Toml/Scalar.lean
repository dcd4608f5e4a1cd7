/-
# Scalars without quotes

A value without quotes is one word: a truth value, a number, or a date or time.  A word runs up to
a blank, a comment, the end of the line or a mark that parts values.  A date may be parted from its
time of day by a space; the seconds may be left out.
-/
import HttpMock.Calendar
import HttpMock.Text.Scan
import HttpMock.Toml.Number

namespace HttpMock
namespace Toml
open Text

/-- What is left of a word after the calendar date with which it starts. -/
def skipDate? (s : List Char) : Option (List Char) := do
  let (year, s) ← number? 4 s
  let s ← literal? ['-'] s
  let (month, s) ← number? 2 s
  let s ← literal? ['-'] s
  let (day, s) ← number? 2 s
  let m ← if month = 0 then none else Month.all[month - 1]?
  if 1 ≤ day ∧ day ≤ m.length (Year.isLeap year) then some s else none

/-- What is left of a word after the time of day with which it starts. -/
def skipTime? (s : List Char) : Option (List Char) := do
  let (hour, s) ← number? 2 s
  let s ← literal? [':'] s
  let (minute, s) ← number? 2 s
  if 24 ≤ hour ∨ 60 ≤ minute then none
  else
    match s with
    | ':' :: s => do
      let (second, s) ← number? 2 s
      if 60 < second then none
      else
        match s with
        | '.' :: s =>
          if (s.takeWhile Char.isDigit).isEmpty then none else some (s.dropWhile Char.isDigit)
        | s => some s
    | s => some s

/-- Whether a text is an offset from the time of Greenwich. -/
def isOffset (s : List Char) : Bool :=
  match s with
  | ['Z'] | ['z'] => true
  | sign :: s =>
    (sign == '+' || sign == '-')
      && s.length == 5 && (skipTime? s).any (·.isEmpty)
  | [] => false

/-- Whether a word is a date, a time of day, or a date with a time of day. -/
def isDatetime (s : List Char) : Bool :=
  (skipTime? s).any (·.isEmpty)
    || (skipDate? s).any fun s =>
      match s with
      | [] => true
      | c :: s =>
        (c == 'T' || c == 't' || c == ' ')
          && (skipTime? s).any fun s => s.isEmpty || isOffset s

/-- The characters at which a word ends: blanks, line ends, and the marks that part values. -/
def wordEnds : List Char := [' ', '\t', '\n', '\r', '#', '=', ',', '[', ']', '\x7b', '\x7d']

/-- A character of a word. -/
def isWordChar (c : Char) : Bool := !wordEnds.contains c

/-- Reads a word; a date and the time of day after a space are one word. -/
def word (s : List Char) : List Char × List Char :=
  let first := s.takeWhile isWordChar
  let rest := s.dropWhile isWordChar
  match rest with
  | ' ' :: d :: r =>
    if d.isDigit && (skipDate? first).any (·.isEmpty) then
      (first ++ ' ' :: (d :: r).takeWhile isWordChar, (d :: r).dropWhile isWordChar)
    else (first, rest)
  | _ => (first, rest)

/-- Whether a quote stands right after a point: a string begins there, and no word goes on. -/
def opensString : List Char → Bool
  | '.' :: c :: s => c == '"' || c == '\'' || opensString (c :: s)
  | _ :: s => opensString s
  | [] => false

/-- The value of a word. -/
def Value.ofWord? (s : List Char) : Option Value :=
  if s = ['t', 'r', 'u', 'e'] then some (.boolean true)
  else if s = ['f', 'a', 'l', 's', 'e'] then some (.boolean false)
  else if isDatetime s then some (.datetime (String.ofList s))
  else if opensString s then none
  else ofNumber? s

end Toml
end HttpMock
