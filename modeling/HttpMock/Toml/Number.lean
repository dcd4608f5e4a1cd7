/-
# Numbers of a TOML document

A number is read in two steps.  A document only asks of a word that it has the shape of a number;
which number it stands for is asked when the value is wanted.  So there are words in the shape of a
number that stand for none: `unreadable` values.

An integer to the base ten starts with its sign, if it has one, and its first digits, of which the
first is zero only if it is the only one.  An integer to another base starts with a prefix; its
digits, or even a sign before them, come after the prefix.  An underscore parts characters that are
digits to some base.  The shape leaves open whether the digits fit the base, whether there are any
after a prefix, and how large the integer is: it has to fit in 64 bits, with or without a sign.

A decimal fraction has the shape of a number only if all its digits are decimal.  It stands for no
number if it is past the largest of double precision.
-/
import HttpMock.Binary64.Basic
import HttpMock.Toml.Strings
import HttpMock.Toml.Value

namespace HttpMock
namespace Toml

/-- The sign of a number, if it has one, and what comes after it. -/
def splitSign : List Char → Option Char × List Char
  | '-' :: s => (some '-', s)
  | '+' :: s => (some '+', s)
  | s => (none, s)

/-- A digit to a base that is at most sixteen. -/
def isDigitOf (base : Nat) (c : Char) : Bool := (hexDigit? c).any (· < base)

/-- The number that a row of digits stands for in a base. -/
def rowValue (base : Nat) (ds : List Char) : Nat :=
  ds.foldl (fun n d => base * n + (hexDigit? d).getD 0) 0

/-- A number with a sign; only a minus counts. -/
def signed (sign : Option Char) (n : Nat) : Int := if sign = some '-' then -(n : Int) else n

/-- An integer as it is written. -/
structure IntegerWord where
  /-- The base of its digits. -/
  base : Nat
  /-- Its sign, if it has one, and its digits, without underscores. -/
  text : List Char
deriving DecidableEq, Repr

namespace IntegerWord

/-- Whether each of some groups, which underscores part, starts with a digit to some base, and each
but the last ends with one. -/
def arePartedAtDigits (groups : List (List Char)) : Bool :=
  groups.all (·.head?.any (isDigitOf 16)) && groups.dropLast.all (·.getLast?.any (isDigitOf 16))

/-- Whether a text after a prefix has the shape of an integer. -/
def isPrefixed (s : List Char) : Bool :=
  match s.splitOn '_' with
  | [_] => true
  | groups => arePartedAtDigits groups

/-- Whether a word has the shape of an integer to the base ten. -/
def isDecimal (s : List Char) : Bool :=
  match s.splitOn '_' with
  | [] => false
  | first :: groups =>
    let digits := (splitSign first).2
    digits.all Char.isDigit
      && ((digits == ['0'] && groups.isEmpty) || digits.head?.any (· != '0'))
      && arePartedAtDigits groups
      && groups.all (·.all fun c => c != '.' && c != 'e' && c != 'E')

/-- The integer that a word writes, if it has the shape of one. -/
def ofWord? (s : List Char) : Option IntegerWord :=
  let digits := s.filter (· != '_')
  match s with
  | '0' :: 'x' :: t => if isPrefixed t then some ⟨16, digits.drop 2⟩ else none
  | '0' :: 'o' :: t => if isPrefixed t then some ⟨8, digits.drop 2⟩ else none
  | '0' :: 'b' :: t => if isPrefixed t then some ⟨2, digits.drop 2⟩ else none
  | _ => if isDecimal s then some ⟨10, digits⟩ else none

/-- The integer, if the digits fit the base and it fits in 64 bits, with or without a sign. -/
def toInt? (w : IntegerWord) : Option Int :=
  let (sign, digits) := splitSign w.text
  if !digits.isEmpty && digits.all (isDigitOf w.base) then
    (some (signed sign (rowValue w.base digits))).filter fun i =>
      -9223372036854775808 ≤ i && i < 18446744073709551616
  else none

end IntegerWord

/-- The digits of a row in which single underscores may stand between digits. -/
def digitRow? (s : List Char) : Option (List Char) :=
  let groups := s.splitOn '_'
  if groups.all fun g => !g.isEmpty && g.all Char.isDigit then some groups.flatten else none

/-- The digits of a row in which no zero comes first but a zero alone. -/
def wholeRow? (s : List Char) : Option (List Char) :=
  (digitRow? s).filter fun ds => ds.length == 1 || ds.head? != some '0'

/-- The number of double precision nearest to the decimal fraction that a word writes; infinite if
the fraction is past the largest. -/
def fraction? (s : List Char) : Option Binary64 :=
  let isExponentMark (c : Char) := c == 'e' || c == 'E'
  let (sign, s) := splitSign s
  let mantissa := s.takeWhile (!isExponentMark ·)
  let scale := s.dropWhile (!isExponentMark ·)
  let whole := mantissa.takeWhile (· != '.')
  let fraction := mantissa.dropWhile (· != '.')
  if scale.isEmpty && fraction.isEmpty then none
  else do
    let whole ← wholeRow? whole
    let fraction ← if fraction.isEmpty then some [] else digitRow? (fraction.drop 1)
    let scale : Int ←
      if scale.isEmpty then some 0
      else
        let (sign, ds) := splitSign (scale.drop 1)
        (digitRow? ds).map fun ds => signed sign (rowValue 10 ds)
    some (Binary64.ofDecimal (sign == some '-') (rowValue 10 (whole ++ fraction))
      (scale - fraction.length))

/-- Infinity, or what is no number, under its name. -/
def named? (s : List Char) : Option Binary64 :=
  match splitSign s with
  | (sign, ['i', 'n', 'f']) => some (.infinite (sign == some '-'))
  | (_, ['n', 'a', 'n']) => some .nan
  | _ => none

/-- The value of a word in the shape of a number. -/
def Value.ofNumber? (s : List Char) : Option Value :=
  let unreadable : Value := .unreadable (String.ofList s)
  match IntegerWord.ofWord? s with
  | some w => some ((w.toInt?.map .integer).getD unreadable)
  | none =>
    match named? s with
    | some x => some (.float x)
    | none =>
      (fraction? s).map fun x =>
        match x with
        | .infinite _ => unreadable
        | x => .float x

end Toml
end HttpMock
