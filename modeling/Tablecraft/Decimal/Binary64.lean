namespace Tablecraft.Decimal

/-- A magnitude of the format: `significand · 2 ^ exponent`, or infinity. -/
inductive Binary64
  | finite (significand : Nat) (exponent : Int)
  | infinite
  deriving DecidableEq, Repr

namespace Binary64

def zero : Binary64 := .finite 0 0

/-- Significands of normal magnitudes reach from here to twice this bound. -/
def unit : Nat := Nat.pow 2 52

def minExponent : Int := -1074

def maxExponent : Int := 971

def roundHalfEven (numerator denominator : Nat) : Nat :=
  let q := numerator / denominator
  let r := numerator % denominator
  if 2 * r < denominator then q
  else if denominator < 2 * r then q + 1
  else q + q % 2

def scaled (numerator denominator : Nat) (exponent : Int) : Nat × Nat :=
  if 0 ≤ exponent then (numerator, denominator * Nat.pow 2 exponent.toNat)
  else (numerator * Nat.pow 2 (-exponent).toNat, denominator)

def exponentOf (numerator denominator : Nat) : Int :=
  let guess : Int := (numerator.log2 : Int) - (denominator.log2 : Int) - 52
  let (n, d) := scaled numerator denominator guess
  let exact := if n < unit * d then guess - 1 else guess
  max exact minExponent

def ofFraction (numerator denominator : Nat) : Binary64 :=
  let e := exponentOf numerator denominator
  let (n, d) := scaled numerator denominator e
  let m := roundHalfEven n d
  let (m, e) := if m = 2 * unit then (unit, e + 1) else (m, e)
  if maxExponent < e then .infinite else .finite m e

def digitCount (n : Nat) : Nat := (Nat.toDigits 10 n).length

/-- The magnitude nearest to `digits · 10 ^ power`. Powers that lead beyond the format on either
side are decided by the number of digits alone. -/
def ofDecimal (digits : Nat) (power : Int) : Binary64 :=
  if digits = 0 then zero
  else
    let magnitude := (digitCount digits : Int) + power
    if 310 < magnitude then .infinite
    else if magnitude < -330 then zero
    else if 0 ≤ power then ofFraction (digits * Nat.pow 10 power.toNat) 1
    else ofFraction digits (Nat.pow 10 (-power).toNat)

end Binary64

end Tablecraft.Decimal
