import LensCalibration.Binary.Single

/-!
# Numerals

A numeral is a decimal number as it is written: sign, whole digits, fraction digits, exponent.
`Numeral.value` is the number it stands for, which is an integer where it is written as one that
fits 64 bits, and otherwise a double.
-/

namespace LensCalibration.Decimal

open Binary

/-! ## Digits -/

abbrev Digit := Fin 10

def Digit.zero : Digit := ⟨0, by decide⟩

def Digit.ofChar? (c : Char) : Option Digit :=
  if '0' ≤ c ∧ c ≤ '9' then some (Fin.ofNat 10 (c.toNat - '0'.toNat)) else none

def Digit.toChar (d : Digit) : Char :=
  Char.ofNat ('0'.toNat + d)

def takeDigits : List Char → List Digit × List Char
  | [] => ([], [])
  | c :: rest =>
      match Digit.ofChar? c with
      | none => ([], c :: rest)
      | some d => (d :: (takeDigits rest).1, (takeDigits rest).2)

def digitsFrom : Nat → Nat → List Digit → List Digit
  | 0, _, digits => digits
  | fuel + 1, n, digits =>
      if n < 10 then Fin.ofNat 10 n :: digits
      else digitsFrom fuel (n / 10) (Fin.ofNat 10 n :: digits)

/-- The digits of a number, most significant first; zero has the one digit `0`. -/
def digitsOf (n : Nat) : List Digit :=
  digitsFrom (n + 1) n []

/--
Append digits to `start` as long as the number stays within `limit`.  The result is the number
reached and the digits that were left over.
-/
def absorb (limit : Nat) : (start : Nat) → List Digit → Nat × List Digit
  | n, [] => (n, [])
  | n, d :: digits =>
      if n * 10 + d ≤ limit then absorb limit (n * 10 + d) digits else (n, d :: digits)

/-! ## Numerals and their text -/

structure Exponent where
  negative : Bool
  digits : List Digit
  deriving DecidableEq, Repr

structure Numeral where
  negative : Bool
  whole : List Digit
  /-- The digits after the point; with none of them, no point is written. -/
  fraction : List Digit
  exponent : Option Exponent
  deriving DecidableEq, Repr

def Exponent.toChars (e : Exponent) : List Char :=
  'e' :: (if e.negative then '-' else '+') :: e.digits.map Digit.toChar

namespace Numeral

def toChars (n : Numeral) : List Char :=
  (if n.negative then ['-'] else []) ++ n.whole.map Digit.toChar ++
    (if n.fraction.isEmpty then [] else '.' :: n.fraction.map Digit.toChar) ++
    (n.exponent.elim [] Exponent.toChars)

def toString (n : Numeral) : String :=
  String.ofList n.toChars

def ofInt (n : Int) : Numeral :=
  ⟨n < 0, digitsOf n.natAbs, [], none⟩

end Numeral

/-! ## The number written -/

inductive Number where
  | integer (value : Int)
  | double (negative : Bool) (magnitude : Magnitude)
  deriving DecidableEq, Repr

/-- `10 ^ 308` is the largest power of ten that is a finite double. -/
def largestPower : Nat := 308

def doublePower (power : Nat) : Option Magnitude :=
  Format.double.ofNat (Nat.pow 10 power)

def shrinkSteps : (steps : Nat) → Magnitude → Option Magnitude
  | 0, x => some x
  | steps + 1, x =>
      if x.significand = 0 then some x
      else do shrinkSteps steps (← Format.double.div x (← doublePower largestPower))

/--
Divide by `10 ^ power`.  Beyond the largest power the division is done in steps, each of them
rounded, of which the last is the only one that may be smaller.
-/
def shrink (x : Magnitude) (power : Nat) : Option Magnitude := do
  let steps := (power - 1) / largestPower
  Format.double.div (← shrinkSteps steps x) (← doublePower (power - steps * largestPower))

/-- Multiply by `10 ^ power`; there is no result where that is too large for a double. -/
def grow (x : Magnitude) (power : Nat) : Option Magnitude :=
  if power ≤ largestPower then do Format.double.mul x (← doublePower power)
  else if x.significand = 0 then some x
  else none

/--
The double for `significand * 10 ^ exponent`.  The significand, the power of ten and their product
or quotient are each rounded, so the result need not be the nearest double.
-/
def toDouble (significand : Nat) (exponent : Int) : Option Magnitude := do
  let x ← Format.double.ofNat significand
  if 0 ≤ exponent then grow x exponent.toNat else shrink x (-exponent).toNat

def significandLimit : Nat := 0xffffffffffffffff

def exponentLimit : Nat := 0x7fffffff

namespace Numeral

/-- The written exponent.  One that is too large is an error; so many of its digits are unread. -/
def writtenExponent (n : Numeral) : Except Nat Int :=
  match n.exponent with
  | none => .ok 0
  | some e =>
      match absorb exponentLimit 0 e.digits with
      | (value, []) => .ok (if e.negative then -value else value)
      | (_, _ :: unread) => .error unread.length

/--
Whole digits that no longer fit the significand are dropped and raise the exponent; fraction digits
lower it as long as they fit, and are ignored from the first that does not.
-/
def gathered (n : Numeral) : Nat × Int :=
  let (significand, dropped) := absorb significandLimit 0 n.whole
  let (significand, ignored) := absorb significandLimit significand n.fraction
  (significand, dropped.length - (n.fraction.length - ignored.length : Nat))

/-- An integer is written without point and exponent, and is not a negative zero. -/
def integer? (n : Numeral) : Option Int :=
  match n.fraction, n.exponent, absorb significandLimit 0 n.whole with
  | [], none, (value, []) =>
      if n.negative then
        if 0 < value ∧ value ≤ 0x8000000000000000 then some (-value) else none
      else some value
  | _, _, _ => none

/--
The number that is written.  A number that is too large for a double has none; the error is how many
digits at the end of the numeral need not be looked at to know that.
-/
def value (n : Numeral) : Except Nat Number :=
  match n.integer? with
  | some i => .ok (.integer i)
  | none =>
      let (significand, exponent) := n.gathered
      match n.writtenExponent with
      | .ok written =>
          match toDouble significand (exponent + written) with
          | some x => .ok (.double n.negative x)
          | none => .error 0
      | .error unread =>
          if significand ≠ 0 ∧ !(n.exponent.any Exponent.negative) then .error unread
          else .ok (.double n.negative ⟨0, Format.double.least⟩)

end Numeral

/-- The nearest single; what is too large becomes an infinity. -/
def Number.toSingle : Number → Single
  | .integer n => Single.ofInt n
  | .double negative x => Single.ofMagnitude negative x

end LensCalibration.Decimal
