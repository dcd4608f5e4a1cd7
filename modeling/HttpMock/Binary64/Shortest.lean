/-
# The shortest decimal of a number

A finite number is written with the fewest digits that stand for it: of the decimals that round to
the number, one on the coarsest grid of powers of ten, the nearest to the number if the grid has
two, and the larger if they are equally near.  The digits are written out in full around a decimal
point, with zeros where needed, and with at least one digit on both sides of the point.
-/
import HttpMock.Binary64.Basic
import HttpMock.Text.Numeral

namespace HttpMock
namespace Binary64

/-- The decimals that round to a positive number, compared with the grid of a power of ten. -/
structure Grid where
  /-- The number, scaled so that the grid has whole steps. -/
  value : Nat
  /-- The least scaled value that rounds to the number. -/
  low : Nat
  /-- The greatest scaled value that rounds to the number. -/
  high : Nat
  /-- The scaled step of the grid. -/
  step : Nat
  /-- Whether `low` and `high` round to the number themselves. -/
  closed : Bool

namespace Grid

/-- The grid of `10 ^ k` around `m * 2 ^ q`.  The scale has four parts for every unit of `m`, so
that the ends of the interval of rounding are whole; it reaches half as far down from a power of
two, below which the numbers lie twice as close. -/
def around (m : Nat) (q k : Int) : Grid :=
  let unit := Text.tens (-k).toNat <<< (q - 2).toNat
  let below := if m = 1 <<< 52 ∧ minExponent < q then 1 else 2
  ⟨4 * m * unit, (4 * m - below) * unit, (4 * m + 2) * unit, Text.tens k.toNat <<< (2 - q).toNat,
    m % 2 == 0⟩

/-- Whether the point `c` of the grid rounds to the number. -/
def contains (g : Grid) (c : Nat) : Bool :=
  let x := c * g.step
  if g.closed then g.low ≤ x && x ≤ g.high else g.low < x && x < g.high

/-- The point of the grid that rounds to the number and is nearest to it. -/
def nearest? (g : Grid) : Option Nat :=
  let c := g.value / g.step
  match g.contains c, g.contains (c + 1) with
  | true, true => if 2 * (g.value % g.step) < g.step then some c else some (c + 1)
  | true, false => some c
  | false, true => some (c + 1)
  | false, false => none

end Grid

/-- The powers of ten that can be needed, the coarsest first. -/
def powersOfTen : List Int := (List.range 660).map fun (i : Nat) => 310 - (i : Int)

/-- The digits and the power of ten of the shortest decimal of `m * 2 ^ q`, for positive `m`. -/
def shortest (m : Nat) (q : Int) : Nat × Int :=
  (powersOfTen.findSome? fun k => (Grid.around m q k).nearest?.map fun c => (c, k)).getD (0, 0)

/-- The decimal `digits * 10 ^ exponent`, written out around its point. -/
def positional (digits : List Char) (exponent : Int) : List Char :=
  let places := (-exponent).toNat
  let whole := digits ++ List.replicate exponent.toNat '0'
  let padded := List.replicate (places + 1 - whole.length) '0' ++ whole
  let (front, back) := padded.splitAt (padded.length - places)
  front ++ '.' :: (if back.isEmpty then ['0'] else back)

/-- The shortest decimal of a number, written out. -/
def render : Binary64 → String
  | nan => "NaN"
  | infinite negative => if negative then "-inf" else "inf"
  | finite negative m q =>
    let (digits, exponent) := if m = 0 then (0, 0) else shortest m q
    let text := positional (Text.decimalChars digits) exponent
    String.ofList (if negative then '-' :: text else text)

end Binary64
end HttpMock
