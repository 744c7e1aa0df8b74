import Mathlib
import LensCalibration.Proofs.Json.Printing

/-!
# Digits of whole numbers

`digitsOf` writes a number without superfluous zeros, and `absorb` gathers it again as long as it
fits.  An integer that fits 64 bits is therefore written as a numeral that stands for itself.
-/

namespace LensCalibration.Decimal

/-! ## Gathering -/

/-- The number reached when digits are appended to another one. -/
def appendDigits (start : Nat) (digits : List Digit) : Nat :=
  digits.foldl (fun n (d : Digit) => n * 10 + d) start

@[simp] theorem appendDigits_nil (start : Nat) : appendDigits start [] = start := rfl

@[simp] theorem appendDigits_cons (start : Nat) (d : Digit) (digits : List Digit) :
    appendDigits start (d :: digits) = appendDigits (start * 10 + d) digits := rfl

theorem le_appendDigits (start : Nat) (digits : List Digit) :
    start ≤ appendDigits start digits := by
  induction digits generalizing start with
  | nil => exact Nat.le_refl _
  | cons d digits ih =>
      have := ih (start * 10 + d)
      rw [appendDigits_cons]
      omega

theorem absorb_eq {limit start : Nat} {digits : List Digit}
    (h : appendDigits start digits ≤ limit) :
    absorb limit start digits = (appendDigits start digits, []) := by
  induction digits generalizing start with
  | nil => rfl
  | cons d digits ih =>
      rw [appendDigits_cons] at h ⊢
      have := le_appendDigits (start * 10 + d) digits
      rw [absorb, if_pos (by omega)]
      exact ih h

theorem absorb_fst_le {limit start : Nat} (digits : List Digit) (h : start ≤ limit) :
    (absorb limit start digits).1 ≤ limit := by
  induction digits generalizing start with
  | nil => exact h
  | cons d digits ih =>
      rw [absorb]
      split
      · next hfits => exact ih hfits
      · exact h

theorem length_absorb_snd_le (limit start : Nat) (digits : List Digit) :
    (absorb limit start digits).2.length ≤ digits.length := by
  induction digits generalizing start with
  | nil => exact Nat.le_refl _
  | cons d digits ih =>
      rw [absorb]
      split
      · have := ih (start * 10 + d)
        rw [List.length_cons]
        omega
      · exact Nat.le_refl _

/-! ## Writing -/

theorem appendDigits_digitsFrom {fuel n : Nat} (h : n < fuel) (digits : List Digit) :
    appendDigits 0 (digitsFrom fuel n digits) = appendDigits n digits := by
  induction fuel generalizing n digits with
  | zero => omega
  | succ fuel ih =>
      rw [digitsFrom]
      split
      · next hsmall => simp [Nat.mod_eq_of_lt hsmall]
      · rw [ih (by omega)]
        have hsplit : n / 10 * 10 + n % 10 = n := by omega
        simp [hsplit]

theorem appendDigits_digitsOf (n : Nat) : appendDigits 0 (digitsOf n) = n :=
  appendDigits_digitsFrom (Nat.lt_succ_self n) []

theorem digitsFrom_head {fuel n : Nat} (h : n < fuel) (hn : 0 < n) (digits : List Digit) :
    ∃ d rest, digitsFrom fuel n digits = d :: rest ∧ d ≠ .zero := by
  induction fuel generalizing n digits with
  | zero => omega
  | succ fuel ih =>
      rw [digitsFrom]
      split
      · next hsmall =>
          refine ⟨_, _, rfl, fun hzero => ?_⟩
          have hvalue : n % 10 = 0 := congrArg Fin.val hzero
          omega
      · exact ih (by omega) (by omega) _

theorem digitsOf_head {n : Nat} (h : 0 < n) : ∃ d rest, digitsOf n = d :: rest ∧ d ≠ .zero :=
  digitsFrom_head (Nat.lt_succ_self n) h []

theorem isWhole_digitsOf (n : Nat) : IsWhole (digitsOf n) := by
  rcases Nat.eq_zero_or_pos n with rfl | h
  · exact .inl rfl
  · exact .inr (digitsOf_head h)

theorem length_digitsFrom_le (fuel : Nat) {n m : Nat} (h : n < 10 ^ (m + 1))
    (digits : List Digit) :
    (digitsFrom fuel n digits).length ≤ digits.length + (m + 1) := by
  induction fuel generalizing n m digits with
  | zero => exact Nat.le_add_right _ _
  | succ fuel ih =>
      rw [digitsFrom]
      split
      · simp
      · cases m with
        | zero => omega
        | succ m =>
            have hquotient : n / 10 < 10 ^ (m + 1) := by
              rw [Nat.pow_succ] at h
              omega
            have := ih hquotient (Fin.ofNat 10 n :: digits)
            simp only [List.length_cons] at this
            omega

theorem length_digitsOf_le {n m : Nat} (h : n < 10 ^ (m + 1)) : (digitsOf n).length ≤ m + 1 := by
  have := length_digitsFrom_le (n + 1) h []
  simpa [digitsOf] using this

theorem digitsOf_ne_nil (n : Nat) : digitsOf n ≠ [] := by
  obtain ⟨d, rest, h⟩ := (isWhole_digitsOf n).head
  rw [h]
  exact List.cons_ne_nil d rest

theorem Digit.toChar_eq : ∀ d : Digit, d.toChar = Nat.digitChar d := by
  decide

theorem map_toChar_digitsFrom {fuel n : Nat} (h : n < fuel) (digits : List Digit) :
    (digitsFrom fuel n digits).map Digit.toChar =
      Nat.toDigits 10 n ++ digits.map Digit.toChar := by
  induction fuel generalizing n digits with
  | zero => omega
  | succ fuel ih =>
      have hlast : Digit.toChar (Fin.ofNat 10 n) = Nat.digitChar (n % 10) := Digit.toChar_eq _
      rw [digitsFrom]
      split
      · next hsmall =>
          rw [Nat.mod_eq_of_lt hsmall] at hlast
          rw [List.map_cons, hlast, Nat.toDigits_of_lt_base hsmall]
          rfl
      · have hdigits :
            Nat.toDigits 10 n = Nat.toDigits 10 (n / 10) ++ [Nat.digitChar (n % 10)] := by
          have hsmall : n % 10 < 10 := Nat.mod_lt n (by decide)
          rw [← Nat.toDigits_of_lt_base hsmall,
            Nat.toDigits_append_toDigits (by decide) (by omega) hsmall, Nat.div_add_mod]
        rw [ih (by omega), List.map_cons, hlast, hdigits, List.append_assoc]
        rfl

theorem map_toChar_digitsOf (n : Nat) :
    (digitsOf n).map Digit.toChar = (toString n).toList := by
  rw [Nat.toString_eq_repr, Nat.toList_repr]
  exact (map_toChar_digitsFrom (Nat.lt_succ_self n) []).trans (List.append_nil _)

/-! ## Integers -/

theorem toChars_ofInt (n : Int) : (Numeral.ofInt n).toChars = (toString n).toList := by
  have hchars : (Numeral.ofInt n).toChars =
      (if n < 0 then ['-'] else []) ++ (toString n.natAbs).toList := by
    simp [Numeral.toChars, Numeral.ofInt, map_toChar_digitsOf]
  rw [hchars]
  cases n with
  | ofNat n => rfl
  | negSucc n =>
      have : toString (Int.negSucc n) = "-" ++ toString (n + 1) := rfl
      rw [this, String.toList_append, if_pos (Int.negSucc_lt_zero n)]
      rfl

theorem isGrammatical_ofInt (n : Int) : (Numeral.ofInt n).IsGrammatical := by
  refine ⟨isWhole_digitsOf _, fun e he => ?_⟩
  cases he

theorem value_ofInt {n : Int} (hlow : -2 ^ 63 ≤ n) (hhigh : n < 2 ^ 64) :
    (Numeral.ofInt n).value = .ok (.integer n) := by
  have habsorb : absorb significandLimit 0 (digitsOf n.natAbs) = (n.natAbs, []) := by
    have := appendDigits_digitsOf n.natAbs
    rw [absorb_eq (by rw [this, significandLimit]; omega), this]
  have hinteger : (Numeral.ofInt n).integer? = some n := by
    simp only [Numeral.integer?, Numeral.ofInt, habsorb, decide_eq_true_eq]
    by_cases hn : n < 0
    · rw [if_pos hn, if_pos (by omega)]
      congr 1
      omega
    · rw [if_neg hn]
      congr 1
      omega
  rw [Numeral.value, hinteger]

end LensCalibration.Decimal
