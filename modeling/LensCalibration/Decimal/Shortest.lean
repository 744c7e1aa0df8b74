import LensCalibration.Decimal.Numeral

/-!
# Shortest decimals

The shortest decimal that reads back as a floating-point number is the point of the coarsest
decimal grid with a point in the number's rounding interval.  Of several such points the nearest
to the number is taken, and on a tie the one with the even last digit.
-/

namespace LensCalibration.Decimal

open Binary

/-- The number `digits * 10 ^ exponent`. -/
structure Scaled where
  digits : Nat
  exponent : Int
  deriving DecidableEq, Repr

/-- What rounds to `center`; all three numbers count units of `2 ^ unit`. -/
structure Interval where
  lower : Nat
  center : Nat
  upper : Nat
  unit : Int
  /-- Whether the ends belong to it. -/
  closed : Bool
  deriving DecidableEq, Repr

namespace Interval

/--
The interval of a value other than zero, in quarters of its last place.  Below a power of two the
values lie twice as close; the ends round to an even significand.
-/
def ofMagnitude (format : Format) (x : Magnitude) : Interval :=
  let atPower := x.significand = Nat.pow 2 (format.precision - 1) ∧ format.least < x.exponent
  { lower := 4 * x.significand - (if atPower then 1 else 2)
    center := 4 * x.significand
    upper := 4 * x.significand + 2
    unit := x.exponent - 2
    closed := x.significand % 2 = 0 }

/-- The best point of the grid `10 ^ k` in the interval. -/
def onGrid? (i : Interval) (k : Int) : Option Nat :=
  let units := Nat.pow 10 (-k).toNat * Nat.pow 2 i.unit.toNat
  let step := Nat.pow 10 k.toNat * Nat.pow 2 (-i.unit).toNat
  let within (d : Nat) : Bool :=
    if i.closed then i.lower * units ≤ d * step ∧ d * step ≤ i.upper * units
    else i.lower * units < d * step ∧ d * step < i.upper * units
  let below := i.center * units / step
  match within below, within (below + 1) with
  | false, false => none
  | true, false => some below
  | false, true => some (below + 1)
  | true, true =>
      match compare (2 * i.center * units) ((2 * below + 1) * step) with
      | .lt => some below
      | .eq => some (below + below % 2)
      | .gt => some (below + 1)

/-- The best point of the first grid with one, trying `grids` of them from `10 ^ k` downward. -/
def coarsest (i : Interval) : (grids : Nat) → (k : Int) → Scaled
  | 0, k => ⟨(i.onGrid? k).getD 0, k⟩
  | grids + 1, k =>
      match i.onGrid? k with
      | some d => ⟨d, k⟩
      | none => i.coarsest grids (k - 1)

/-- An exponent `k` for which `10 ^ k` lies above the interval; 0.30103 is just above `log 2`. -/
def above (i : Interval) : Int :=
  (i.upper.log2 + 1 + i.unit) * 30103 / 100000 + 2

end Interval

/--
A grid of a tenth of the last place is fine enough, and is reached within as many steps as bits.
-/
def shortest (format : Format) (x : Magnitude) : Scaled :=
  let interval := Interval.ofMagnitude format x
  interval.coarsest (format.precision + 4) interval.above

/-! ## Layout -/

/--
Numbers whose leading digit stands at `10 ^ low` to `10 ^ high` are written without an exponent.
-/
structure Layout where
  low : Int
  high : Int
  deriving DecidableEq, Repr

def Layout.numeral (style : Layout) (negative : Bool) (x : Scaled) : Numeral :=
  let digits := digitsOf x.digits
  let top := x.exponent + (digits.length - 1 : Nat)
  if style.low ≤ top ∧ top ≤ style.high then
    if 0 ≤ x.exponent then
      ⟨negative, digits ++ List.replicate x.exponent.toNat .zero, [.zero], none⟩
    else if 0 ≤ top then
      ⟨negative, digits.take (top.toNat + 1), digits.drop (top.toNat + 1), none⟩
    else
      ⟨negative, [.zero], List.replicate (-top - 1).toNat .zero ++ digits, none⟩
  else
    ⟨negative, digits.take 1, digits.drop 1, some ⟨top < 0, digitsOf top.natAbs⟩⟩

/-- The numeral of a finite value: the shortest decimal, and `0.0` for zero. -/
def Layout.ofMagnitude (style : Layout) (format : Format) (negative : Bool) (x : Magnitude) :
    Numeral :=
  if x.significand = 0 then ⟨negative, [.zero], [.zero], none⟩
  else style.numeral negative (shortest format x)

/-- Singles from `1e-6` up to `9.99e12` are written without an exponent. -/
def singleLayout : Layout := ⟨-6, 12⟩

def doubleLayout : Layout := ⟨-5, 15⟩

def numeral? (x : Single) : Option Numeral :=
  match x.datum with
  | .finite negative magnitude =>
      some (singleLayout.ofMagnitude Format.single negative magnitude)
  | _ => none

end LensCalibration.Decimal
