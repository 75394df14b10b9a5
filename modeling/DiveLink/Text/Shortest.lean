import DiveLink.Text.Decimal

/-!
# Shortest decimal text of a floating point number

The fewest digits that read back as the same number, and among those the nearest to it.

1. `Shortest.interval` takes a number apart: the reals that round to it lie between two bounds.
2. `Shortest.digits` tests the two neighbours of the number on decimal grids, coarse to fine.
3. `Shortest.Style` says where digits are written out and where with an exponent;
   `Shortest.text` prints a number in a style.
-/

namespace DiveLink.Shortest

/-! ## §1 Numbers as quotients -/

/-- The reals that round to a positive number. With `denominator` below all three, `number` is the
number itself and `low` and `high` bound the interval. -/
structure Interval where
  low : Nat
  number : Nat
  high : Nat
  denominator : Nat
  /-- Whether the bounds round to the number, too. -/
  closed : Bool
  deriving DecidableEq, Repr

/-- The interval of a double precision number that is neither zero nor infinite, given by its bits
without the sign. Below a power of two the numbers lie twice as close. -/
def interval (bits : Nat) : Interval :=
  let exponent := bits / 4503599627370496
  let fraction := bits % 4503599627370496
  let significand := if exponent = 0 then fraction else fraction + 4503599627370496
  let below := if fraction = 0 ∧ 1 < exponent then 1 else 2
  let power := max exponent 1
  -- the unit is a quarter of the distance to the next number
  let up := Nat.pow 2 (power - 1077)
  { low := (4 * significand - below) * up
    number := 4 * significand * up
    high := (4 * significand + 2) * up
    denominator := Nat.pow 2 (1077 - power)
    closed := significand % 2 = 0 }

/-- Whether `n` times a power of ten, in units of the denominator, rounds to the number. -/
def Interval.holds (i : Interval) (scaled : Nat) (shift : Nat) : Bool :=
  if i.closed then i.low * shift ≤ scaled && scaled ≤ i.high * shift
  else i.low * shift < scaled && scaled < i.high * shift

/-! ## §2 The grids -/

/-- How many zeros are put behind every number, so that no quotient is below one. -/
def zeros : Nat := 350

/-- The exponent of the first digit of the number. -/
def Interval.exponent (i : Interval) : Int :=
  (Decimal.digits (i.number * Decimal.tenTo zeros / i.denominator)).length - 1 - (zeros : Int)

/-- The multiple of `10 ^ place` that rounds to the number and lies nearest to it, if there is one;
of two at the same distance the even one. -/
def Interval.onGrid (i : Interval) (place : Int) : Option Nat :=
  -- with `shift` and `step` every quantity is a whole number
  let shift := Decimal.tenTo (-place).toNat
  let step := i.denominator * Decimal.tenTo place.toNat
  let number := i.number * shift
  let lower := number / step
  let downOk := i.holds (lower * step) shift
  let upOk := i.holds ((lower + 1) * step) shift
  let down := number - lower * step
  let up := (lower + 1) * step - number
  if downOk && upOk then
    some (if down < up || (down == up && lower % 2 == 0) then lower else lower + 1)
  else if downOk then some lower
  else if upOk then some (lower + 1)
  else none

/-- The shortest digits of the number, with the exponent of the first one: of at most `fuel` grids,
each finer than the one before, the first that has a point in the interval. -/
def Interval.search (i : Interval) : Nat → Int → Nat × Int
  | 0, place => (0, place)
  | fuel + 1, place =>
    match i.onGrid place with
    | some n => (n, place)
    | none => i.search fuel (place - 1)

/-- The digits of a positive number and the exponent of the first one. -/
def digits (bits : Nat) : List Char × Int :=
  let i := interval bits
  let (n, place) := i.search 20 i.exponent
  let ds := Decimal.digits n
  let exponent := place + ds.length - 1
  let ds := (ds.reverse.dropWhile (· == '0')).reverse
  (ds, exponent)

/-! ## §3 Text -/

/-- How digits are written. -/
structure Style where
  /-- The least exponent of a number whose zeros are written out. -/
  least : Int
  /-- The greatest one. -/
  greatest : Int

/-- Digits, the first of which has this exponent. -/
def write (style : Style) (ds : List Char) (exponent : Int) : List Char :=
  if style.least ≤ exponent ∧ exponent < 0 then
    '0' :: '.' :: List.replicate (-exponent - 1).toNat '0' ++ ds
  else if 0 ≤ exponent ∧ exponent ≤ style.greatest then
    let whole := exponent.toNat + 1
    if ds.length ≤ whole then ds ++ List.replicate (whole - ds.length) '0' ++ ['.', '0']
    else ds.take whole ++ '.' :: ds.drop whole
  else
    ds.take 1 ++ (if ds.length ≤ 1 then [] else '.' :: ds.drop 1) ++
      'e' :: (if exponent < 0 then '-' else '+') :: Decimal.digits exponent.natAbs

/-- The shortest text of a finite number. -/
def text (style : Style) (x : Float) : List Char :=
  let bits := x.toBits.toNat
  let magnitude := bits % 9223372036854775808
  let sign := if magnitude < bits then ['-'] else []
  if magnitude = 0 then sign ++ ['0', '.', '0']
  else
    let (ds, exponent) := digits magnitude
    sign ++ write style ds exponent

end DiveLink.Shortest
