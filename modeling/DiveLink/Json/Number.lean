import DiveLink.Text.Shortest

/-!
# Numbers in JSON

A number without fraction and exponent is whole if it is small enough; every other number is a
floating point number, computed from the leading digits that fit into sixty-four bits.

1. `Number` is a whole number or a floating point number, `Number.text` prints it.
2. `Numeral` is a number as it is written, `Numeral.number` its value. Numbers too large for
   floating point are refused.
-/

namespace DiveLink.Json

/-! ## §1 Values -/

/-- The value of a number. -/
inductive Number where
  | natural (n : Nat)
  /-- The number below zero with this distance from it. -/
  | negative (n : Nat)
  | float (x : Float)
  deriving Repr, Inhabited

/-- Floating point numbers are written with their zeros from the fifth place behind the point to
the sixteenth before it. -/
def floatStyle : Shortest.Style := ⟨-5, 15⟩

def Number.text : Number → List Char
  | natural n => Decimal.digits n
  | negative n => '-' :: Decimal.digits n
  | float x => Shortest.text floatStyle x

/-! ## §2 Numerals -/

/-- A number as it is written. -/
structure Numeral where
  negative : Bool
  whole : List Char
  fraction : Option (List Char)
  /-- The exponent: whether it is below zero, and its digits. -/
  exponent : Option (Bool × List Char)
  deriving DecidableEq, Repr

def significandLimit : Nat := UInt64.size - 1

/-- The greatest distance from zero of a whole number below it. -/
def negativeLimit : Nat := 9223372036854775808

def exponentLimit : Nat := 2147483647

/-- Goes on reading digits behind a number as long as the number does not exceed the limit: the
number, and the digits left. -/
def accumulate (limit : Nat) (n : Nat) : List Char → Nat × List Char
  | [] => (n, [])
  | d :: ds =>
    let next := 10 * n + Decimal.digitValue d
    if limit < next then (n, d :: ds) else accumulate limit next ds

/-- A power of ten in floating point. -/
def power (exponent : Nat) : Float :=
  OfScientific.ofScientific 1 false exponent

/-- Scales a number by a power of ten, in steps of what floating point can hold. Nothing stands for
a number that is too large. -/
def scale (x : Float) (exponent : Int) : Option Float :=
  if exponent.natAbs ≤ 308 then
    if 0 ≤ exponent then
      let y := x * power exponent.natAbs
      if y.isInf then none else some y
    else some (x / power exponent.natAbs)
  else if x == 0 then some x
  else if 0 < exponent then none
  else scale (x / power 308) (exponent + 308)
termination_by exponent.natAbs
decreasing_by omega

/-- The value of a numeral, or that it is too large: then the digits of the exponent that need not
be looked at for that. -/
def Numeral.number (n : Numeral) : Except (List Char) Number :=
  let (significand, left) := accumulate significandLimit 0 n.whole
  match n.fraction, n.exponent, left with
  | none, none, [] =>
    if !n.negative then .ok (.natural significand)
    else if 0 < significand ∧ significand ≤ negativeLimit then .ok (.negative significand)
    else .ok (.float (-(UInt64.ofNat significand).toFloat))
  | _, _, _ =>
    let fraction := n.fraction.getD []
    let (significand, dropped) := accumulate significandLimit significand fraction
    let place : Int := left.length - (fraction.length - dropped.length : Nat)
    let signed (x : Float) : Number := .float (if n.negative then -x else x)
    let scaled (exponent : Int) : Except (List Char) Number :=
      match scale (UInt64.ofNat significand).toFloat exponent with
      | some x => .ok (signed x)
      | none => .error []
    match n.exponent with
    | none => scaled place
    | some (below, ds) =>
      match accumulate exponentLimit 0 ds with
      | (exponent, []) => scaled (if below then place - exponent else place + exponent)
      | (_, _ :: unseen) =>
        if significand ≠ 0 ∧ !below then .error unseen else .ok (signed 0)

end DiveLink.Json
