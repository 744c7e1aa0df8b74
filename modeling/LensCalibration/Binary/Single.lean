import LensCalibration.Binary.Format

/-!
# Single-precision numbers

A `Single` is its 32 bits, so equality of `Single`s is equality of bits: the two zeros differ, and a
NaN equals itself.  `Single.equals` is the comparison of the numbers.
-/

namespace LensCalibration.Binary

structure Single where
  bits : UInt32
  deriving DecidableEq, Repr

inductive Datum where
  | nan
  | infinite (negative : Bool)
  | finite (negative : Bool) (magnitude : Magnitude)
  deriving DecidableEq, Repr

namespace Single

def zero : Single := ⟨0⟩

instance : Inhabited Single := ⟨zero⟩

def one : Single := ⟨0x3f800000⟩

def nan : Single := ⟨0x7fc00000⟩

def infinity (negative : Bool) : Single :=
  ⟨if negative then 0xff800000 else 0x7f800000⟩

/-! ## Bits and what they stand for -/

def datum (x : Single) : Datum :=
  let word := x.bits.toNat
  let negative := 0x80000000 ≤ word
  let biased := word / 0x800000 % 0x100
  let fraction := word % 0x800000
  if biased = 255 then
    if fraction = 0 then .infinite negative else .nan
  else if biased = 0 then .finite negative ⟨fraction, Format.single.least⟩
  else .finite negative ⟨0x800000 + fraction, Format.single.least + (biased - 1 : Nat)⟩

/--
The number with this sign and magnitude, which is a rounded one; `none` stands for what is too
large. A leading bit carries into the exponent field, so it needs no case of its own.
-/
def pack (negative : Bool) : Option Magnitude → Single
  | none => infinity negative
  | some x => ⟨UInt32.ofNat ((if negative then 0x80000000 else 0) +
      (x.exponent - Format.single.least).toNat * 0x800000 + x.significand)⟩

def isFinite (x : Single) : Bool :=
  match x.datum with
  | .finite .. => true
  | _ => false

def isNaN (x : Single) : Bool :=
  x.datum = .nan

def isZero (x : Single) : Bool :=
  x.bits = 0 || x.bits = 0x80000000

/-! ## Arithmetic -/

def ofInt (n : Int) : Single :=
  pack (n < 0) (Format.single.ofNat n.natAbs)

def ofMagnitude (negative : Bool) (x : Magnitude) : Single :=
  pack negative (Format.single.ofMagnitude x)

def mul (x y : Single) : Single :=
  match x.datum, y.datum with
  | .nan, _ | _, .nan => nan
  | .infinite s, .infinite t => infinity (s != t)
  | .infinite s, .finite t m | .finite s m, .infinite t =>
      if m.significand = 0 then nan else infinity (s != t)
  | .finite s m, .finite t n => pack (s != t) (Format.single.mul m n)

def div (x y : Single) : Single :=
  match x.datum, y.datum with
  | .nan, _ | _, .nan => nan
  | .infinite _, .infinite _ => nan
  | .infinite s, .finite t _ => infinity (s != t)
  | .finite s _, .infinite t => pack (s != t) (some ⟨0, Format.single.least⟩)
  | .finite s m, .finite t n =>
      if n.significand = 0 then
        if m.significand = 0 then nan else infinity (s != t)
      else pack (s != t) (Format.single.div m n)

instance : Mul Single := ⟨mul⟩

instance : Div Single := ⟨div⟩

/-- Comparison as numbers: the zeros are equal, and a NaN equals nothing. -/
def equals (x y : Single) : Bool :=
  !x.isNaN && (x = y || x.isZero && y.isZero)

end Single

end LensCalibration.Binary
