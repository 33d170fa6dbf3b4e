/-
  The shortest decimal that reads back as a given binary number, and its text.

  All reals in an interval around a number round to that number; the ends belong
  to it if the significand is even. `shortest` goes through the decimal grids from
  the coarsest to finer ones and takes the first one that has a point in the
  interval. If both neighbours of the number on that grid are in it, the nearer
  one is taken, and of two equally near ones the even one.

  `FloatFormat` says how digits and exponent are put into text.
-/
import GoEnum.Decimal.Binary64

namespace GoEnum.Decimal

/-- The number `digits * 10 ^ exponent`. -/
structure Scaled where
  /-- The digits, as a number. -/
  digits : Nat
  /-- The power of ten they are scaled by. -/
  exponent : Int
deriving Repr, DecidableEq

namespace Binary64

/-- The interval of the reals that round to a number, in units of a quarter of its last binary
digit. -/
structure Interval where
  /-- The lower end. -/
  low : Nat
  /-- The number itself. -/
  middle : Nat
  /-- The upper end. -/
  high : Nat
  /-- Whether the ends belong to it. -/
  closed : Bool
deriving Repr, DecidableEq

/-- The interval around a number that is not zero. Just above a power of two it reaches less far
down, unless the exponent is the least one. -/
def interval (x : Binary64) : Interval :=
  let narrow := x.significand = twoTo (precision - 1) ∧ minExponent < x.exponent
  { low := 4 * x.significand - (if narrow then 1 else 2)
    middle := 4 * x.significand
    high := 4 * x.significand + 2
    closed := x.significand % 2 = 0 }

/-- A grid of decimals against the binary unit of an interval: `point` and `unit` turn multiples
of either into multiples of a common unit. -/
structure Grid where
  /-- The distance of two decimals, in common units. -/
  point : Nat
  /-- The binary unit, in common units. -/
  unit : Nat
deriving Repr, DecidableEq

/-- The grid of the multiples of `10 ^ power`, against quarters of the last binary digit. -/
def grid (x : Binary64) (power : Int) : Grid :=
  let quarter := x.exponent - 2
  { point := tenTo power.toNat * twoTo (-quarter).toNat
    unit := twoTo quarter.toNat * tenTo (-power).toNat }

/-- Whether a decimal of the grid lies in the interval. -/
def Interval.holds (i : Interval) (g : Grid) (digits : Nat) : Bool :=
  let point := digits * g.point
  let low := i.low * g.unit
  let high := i.high * g.unit
  if i.closed then low ≤ point && point ≤ high else low < point && point < high

/-- The decimal of a grid that stands for the number, if the grid has one. -/
def onGrid? (x : Binary64) (power : Int) : Option Nat :=
  let i := x.interval
  let g := x.grid power
  let value := i.middle * g.unit
  let below := value / g.point
  let above := below + 1
  match 0 < below && i.holds g below, i.holds g above with
  | true, true =>
    let down := value - below * g.point
    let up := above * g.point - value
    some (if down < up ∨ (down = up ∧ below % 2 = 0) then below else above)
  | true, false => some below
  | false, true => some above
  | false, false => none

/-- The first decimal on the grids from `10 ^ power` down, over `count` grids. -/
def shortestFrom (x : Binary64) : Nat → Int → Scaled
  | 0, power => ⟨x.significand, power⟩
  | count + 1, power =>
    match x.onGrid? power with
    | some digits => ⟨digits, power⟩
    | none => shortestFrom x count (power - 1)

/-- The shortest decimal that reads back as a number that is not zero. The coarsest grid to be
looked at is that of the greatest finite power of ten, and the finest one is that of the least
binary digit. -/
def shortest (x : Binary64) : Scaled :=
  shortestFrom x 700 309

end Binary64

/-- How the digits and the exponent of a decimal are put into text. The exponent meant here is
that of the first digit. -/
structure FloatFormat where
  /-- The least exponent that is written by position. -/
  leastPositional : Int
  /-- The greatest exponent that is written by position. -/
  greatestPositional : Int
  /-- What comes before an exponent that is written out and not negative. -/
  positiveMark : String
  /-- What comes before an exponent that is written out and negative. -/
  negativeMark : String
deriving Repr, DecidableEq

namespace FloatFormat

/-- A digit string that may be empty, of zeros. -/
def zeros (count : Nat) : String :=
  String.ofList (List.replicate count '0')

/-- The text of a decimal. By position it always has a point, with a digit on either side. -/
def write (format : FloatFormat) (x : Scaled) : String :=
  let digits := Nat.toDigits 10 x.digits
  let exponent : Int := digits.length - 1 + x.exponent
  if format.leastPositional ≤ exponent ∧ exponent ≤ format.greatestPositional then
    if 0 ≤ x.exponent then String.ofList digits ++ zeros x.exponent.toNat ++ ".0"
    else if 0 ≤ exponent then
      String.ofList (digits.take (exponent.toNat + 1)) ++ "."
        ++ String.ofList (digits.drop (exponent.toNat + 1))
    else "0." ++ zeros (-exponent - 1).toNat ++ String.ofList digits
  else
    let fraction := digits.drop 1
    String.ofList (digits.take 1)
      ++ (if fraction.isEmpty then "" else "." ++ String.ofList fraction)
      ++ (if exponent < 0 then format.negativeMark else format.positiveMark)
      ++ toString exponent.natAbs

/-- The text of a binary number with a sign. -/
def writeBinary (format : FloatFormat) (negative : Bool) (x : Binary64) : String :=
  (if negative then "-" else "")
    ++ if x.significand = 0 then "0.0" else format.write x.shortest

end FloatFormat

end GoEnum.Decimal
