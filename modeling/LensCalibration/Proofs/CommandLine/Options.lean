import LensCalibration.CommandLine.Arguments
import LensCalibration.Proofs.Decimal.Digits
import LensCalibration.Proofs.Json.Consumption

/-!
# Options in any order

Arguments that are options, each with its value, are read as what the options ask for together.
Where no option with a value is given twice, their order does not matter.
-/

namespace LensCalibration.CommandLine

open Decimal Json

/-! ## Integers -/

/-- An optional sign and digits, at least one, for an integer of 32 bits. -/
def SpellsInt32 (text : String) (n : Int) : Prop :=
  -2 ^ 31 ≤ n ∧ n < 2 ^ 31 ∧
    ∃ (sign : List Char) (digits : List Digit), digits ≠ [] ∧
      text.toList = sign ++ digits.map Digit.toChar ∧
      ((sign = [] ∨ sign = ['+']) ∧ n = appendDigits 0 digits ∨
        sign = ['-'] ∧ n = -appendDigits 0 digits)

/-- An option under its long or its short name, with its value but for the switch. -/
inductive Choice where
  | listing (long : Bool)
  | code (long : Bool) (text : String) (n : Int) (spells : SpellsInt32 text n)
  | path (long : Bool) (value : String)

namespace Choice

def words : Choice → List String
  | listing long => [if long then "--list" else "-l"]
  | code long text _ _ => [if long then "--code" else "-c", text]
  | path long value => [if long then "--calibration" else "-f", value]

def isListing : Choice → Bool
  | listing _ => true
  | _ => false

def code? : Choice → Option Int
  | code _ _ n _ => some n
  | _ => none

def path? : Choice → Option String
  | path _ value => some value
  | _ => none

end Choice

/-! ## Arguments that are options -/

/-- Together with what options ask for that come later. -/
def Request.extended (r : Request) (choices : List Choice) : Request where
  listing := r.listing || choices.any Choice.isListing
  code := r.code.or (choices.findSome? Choice.code?)
  path := r.path.or (choices.findSome? Choice.path?)

/-- No option with a value is given again. -/
structure Request.Admits (r : Request) (choices : List Choice) : Prop where
  code : r.code.toList.length + (choices.filterMap Choice.code?).length ≤ 1
  path : r.path.toList.length + (choices.filterMap Choice.path?).length ≤ 1

section

variable {α β : Type}

theorem findSome?_cons_eq_or (f : α → Option β) (x : α) (xs : List α) :
    (x :: xs).findSome? f = (f x).or (xs.findSome? f) := by
  rw [List.findSome?_cons]
  cases f x <;> rfl

theorem length_filterMap_cons (f : α → Option β) (x : α) (xs : List α) :
    ((x :: xs).filterMap f).length = (f x).toList.length + (xs.filterMap f).length := by
  rw [List.filterMap_cons]
  cases f x with
  | none => simp
  | some y => simp [Nat.add_comm]

theorem length_toList_or_le (x y : Option α) :
    (x.or y).toList.length ≤ x.toList.length + y.toList.length := by
  cases x with
  | none => simp
  | some a => simp

end

section

variable {r : Request} {choice : Choice} {choices : List Choice}

theorem Request.Admits.tail (h : r.Admits (choice :: choices)) :
    (r.extended [choice]).Admits choices := by
  obtain ⟨hcode, hpath⟩ := h
  rw [length_filterMap_cons] at hcode hpath
  have hcode' := length_toList_or_le r.code choice.code?
  have hpath' := length_toList_or_le r.path choice.path?
  simp only [Request.extended, findSome?_cons_eq_or, List.findSome?_nil, Option.or_none]
  constructor
  · change (r.code.or choice.code?).toList.length + _ ≤ 1
    omega
  · change (r.path.or choice.path?).toList.length + _ ≤ 1
    omega

end

end LensCalibration.CommandLine
