import Tablecraft.Decimal.Binary64

namespace Tablecraft.Decimal

/-- The decimal `0.d₁d₂… · 10 ^ point`, with the digits as one natural number. -/
structure Digits where
  digits : Nat
  point : Int
  deriving DecidableEq, Repr

namespace Shortest

/-- The reals that round to a magnitude, all multiplied by `scale` to become integers. -/
structure Interval where
  low : Nat
  value : Nat
  high : Nat
  scale : Nat
  closed : Bool

/-- A neighbour is half a unit away, and a quarter below the least significand of a binade. -/
def interval (significand : Nat) (exponent : Int) : Interval :=
  let below := if significand = Binary64.unit ∧ Binary64.minExponent < exponent then 1 else 2
  let up := Nat.pow 2 exponent.toNat
  let down := Nat.pow 2 (-exponent).toNat
  ⟨(4 * significand - below) * up, 4 * significand * up, (4 * significand + 2) * up, 4 * down,
    significand % 2 == 0⟩

def Interval.contains (i : Interval) (numerator denominator : Nat) : Bool :=
  let low := i.low * denominator
  let x := numerator * i.scale
  let high := i.high * denominator
  if i.closed then low ≤ x && x ≤ high else low < x && x < high

def pointOf (i : Interval) : Nat → Int → Int
  | 0, p => p
  | fuel + 1, p =>
    let above := if 0 ≤ p then i.value < Nat.pow 10 p.toNat * i.scale
      else i.value * Nat.pow 10 (-p).toNat < i.scale
    if above then p else pointOf i fuel (p + 1)

/-- The digits of length `count` nearest to the value inside the interval, if there are any. A tie
goes to the greater one. -/
def onGrid? (i : Interval) (point : Int) (count : Nat) : Option Digits :=
  let power := point - count
  let unitNumerator := Nat.pow 10 power.toNat
  let unitDenominator := Nat.pow 10 (-power).toNat
  let numerator := i.value * unitDenominator
  let denominator := i.scale * unitNumerator
  let floor := numerator / denominator
  let rest := numerator % denominator
  let inside (n : Nat) := i.contains (n * unitNumerator) unitDenominator
  let choice :=
    match inside floor, inside (floor + 1) with
    | true, true => some (if denominator ≤ 2 * rest then floor + 1 else floor)
    | true, false => some floor
    | false, true => some (floor + 1)
    | false, false => none
  choice.map fun n => if n = Nat.pow 10 count then ⟨n / 10, point + 1⟩ else ⟨n, point⟩

def digits (significand : Nat) (exponent : Int) : Digits :=
  let i := interval significand exponent
  let start : Int := ((significand.log2 : Int) + exponent) * 3 / 10 - 2
  let point := pointOf i 40 start
  ((List.range 17).findSome? fun k => onGrid? i point (k + 1)).getD
    ⟨significand * Nat.pow 2 exponent.toNat, 0⟩

end Shortest

end Tablecraft.Decimal
