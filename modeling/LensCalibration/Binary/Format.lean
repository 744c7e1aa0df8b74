/-!
# Binary floating-point formats

A finite value is `significand * 2 ^ exponent`.  Operations are done exactly on such numbers and
rounded once, to the nearest value of the format and on a tie to the even significand.
-/

namespace LensCalibration.Binary

/-- The size of a finite value: `significand * 2 ^ exponent`. -/
structure Magnitude where
  significand : Nat
  exponent : Int
  deriving DecidableEq, Repr

structure Format where
  /-- Bits of a significand, the leading one included. -/
  precision : Nat
  /-- Exponent of the last place of the smallest values. -/
  least : Int
  /-- Exponent of the last place of the largest finite values. -/
  greatest : Int
  deriving DecidableEq, Repr

def Format.single : Format := ⟨24, -149, 104⟩

def Format.double : Format := ⟨53, -1074, 971⟩

/-! ## Rounding -/

/-- The quotient to the nearest whole number; halves go to the even one. -/
def nearestQuotient (numerator denominator : Nat) : Nat :=
  let quotient := numerator / denominator
  match compare (2 * (numerator % denominator)) denominator with
  | .lt => quotient
  | .eq => quotient + quotient % 2
  | .gt => quotient + 1

/-- The whole exponent `e` with `2 ^ e ≤ numerator / denominator < 2 ^ (e + 1)`. -/
def floorLog (numerator denominator : Nat) : Int :=
  let estimate : Int := numerator.log2 - denominator.log2
  if denominator * Nat.pow 2 estimate.toNat ≤ numerator * Nat.pow 2 (-estimate).toNat then
    estimate
  else estimate - 1

namespace Format

/--
Exponent of the last place that the format keeps of a number whose leading bit stands at `top`.
-/
def lastPlace (format : Format) (top : Int) : Int :=
  max format.least (top - (format.precision - 1))

/--
The value nearest to `numerator / denominator * 2 ^ exponent`, and `none` where that lies beyond the
largest finite value.
-/
def round (format : Format) (numerator denominator : Nat) (exponent : Int) : Option Magnitude :=
  if numerator = 0 then some ⟨0, format.least⟩
  else
    let place := format.lastPlace (floorLog numerator denominator + exponent)
    let quotient := nearestQuotient (numerator * Nat.pow 2 (exponent - place).toNat)
      (denominator * Nat.pow 2 (place - exponent).toNat)
    let rounded : Magnitude :=
      if quotient = Nat.pow 2 format.precision then
        ⟨Nat.pow 2 (format.precision - 1), place + 1⟩
      else ⟨quotient, place⟩
    if format.greatest < rounded.exponent then none else some rounded

def ofNat (format : Format) (n : Nat) : Option Magnitude :=
  format.round n 1 0

def ofMagnitude (format : Format) (x : Magnitude) : Option Magnitude :=
  format.round x.significand 1 x.exponent

def mul (format : Format) (x y : Magnitude) : Option Magnitude :=
  format.round (x.significand * y.significand) 1 (x.exponent + y.exponent)

/-- The rounded quotient, for a divisor other than zero. -/
def div (format : Format) (x y : Magnitude) : Option Magnitude :=
  format.round x.significand y.significand (x.exponent - y.exponent)

end Format

end LensCalibration.Binary
