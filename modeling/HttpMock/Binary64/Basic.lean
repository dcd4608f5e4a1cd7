/-
# Double-precision numbers

A finite number of double precision is `m * 2 ^ q` with a significand `m` below `2 ^ 53` and an
exponent `q` from -1074 to 971.  A decimal stands for the nearest of these numbers, and for the one
with the even significand if two are equally near; past the largest there is only infinity.
-/
import HttpMock.Text.Numeral

namespace HttpMock

/-- A number of double precision. -/
inductive Binary64
  /-- No number at all. -/
  | nan
  /-- Past every finite number. -/
  | infinite (negative : Bool)
  /-- The number `significand * 2 ^ exponent`, with its sign, which zero has too. -/
  | finite (negative : Bool) (significand : Nat) (exponent : Int)
deriving DecidableEq, Repr

namespace Binary64

/-- The least exponent. -/
def minExponent : Int := -1074

/-- The greatest exponent. -/
def maxExponent : Int := 971

/-- The whole number nearest to a fraction, the even one of two that are equally near. -/
def divNearest (num den : Nat) : Nat :=
  let q := num / den
  let r := num % den
  if 2 * r < den then q else if den < 2 * r then q + 1 else q + q % 2

/-- The fraction `num / den` divided by a power of two, as a fraction. -/
def divTwoPow (num den : Nat) (q : Int) : Nat × Nat :=
  (num <<< (-q).toNat, den <<< q.toNat)

/-- The number nearest to a positive fraction. -/
def ofRatio (negative : Bool) (num den : Nat) : Binary64 :=
  let guess := max ((num.log2 : Int) - den.log2 - 53) minExponent
  let (n, d) := divTwoPow num den guess
  let exponent := if 1 <<< 53 ≤ n / d then guess + 1 else guess
  let (n, d) := divTwoPow num den exponent
  let rounded := divNearest n d
  let (significand, exponent) :=
    if rounded = 1 <<< 53 then (1 <<< 52, exponent + 1) else (rounded, exponent)
  if maxExponent < exponent then infinite negative else finite negative significand exponent

/-- The count of decimal digits of a number. -/
def decimalLength (n : Nat) : Nat := if n < 10 then 1 else decimalLength (n / 10) + 1

/-- The number nearest to `digits * 10 ^ exponent`. -/
def ofDecimal (negative : Bool) (digits : Nat) (exponent : Int) : Binary64 :=
  let size : Int := decimalLength digits + exponent
  if digits = 0 ∨ size < -330 then finite negative 0 minExponent
  else if 310 < size then infinite negative
  else ofRatio negative (digits * Text.tens exponent.toNat) (Text.tens (-exponent).toNat)

end Binary64
end HttpMock
