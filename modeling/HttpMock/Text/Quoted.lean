/-
# Quoted texts

A text is quoted so that it can be read in a message: it stands between double quotes, and a
character that would not be seen, or would end the quotation, is written as an escape.  The null,
the tab, the line ends, the quote and the backslash have short escapes; every other character that
leaves no mark of its own is written by its code point in hexadecimal.
-/
import HttpMock.Text.Printable

namespace HttpMock
namespace Text

/-- The lower-case hexadecimal numeral of `n`. -/
def hexChars (n : Nat) : List Char :=
  if n < 16 then [Nat.digitChar n] else hexChars (n / 16) ++ [Nat.digitChar (n % 16)]

/-- A character as it stands in a quoted text. -/
def quoteChar (c : Char) : List Char :=
  match c with
  | '\x00' => ['\\', '0']
  | '\t' => ['\\', 't']
  | '\r' => ['\\', 'r']
  | '\n' => ['\\', 'n']
  | '"' => ['\\', '"']
  | '\\' => ['\\', '\\']
  | c => if isPrintable c then [c] else ['\\', 'u', '\x7b'] ++ hexChars c.toNat ++ ['\x7d']

/-- The text between quotes. -/
def quote (s : String) : String :=
  String.ofList ('"' :: s.toList.flatMap quoteChar ++ ['"'])

end Text
end HttpMock
