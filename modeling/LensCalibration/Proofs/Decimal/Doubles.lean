import LensCalibration.Proofs.Decimal.Digits
import LensCalibration.Proofs.Decimal.Rounding

/-!
# Numerals beyond the range of doubles

The double of a numeral is reached by rounding its significand, a power of ten, and their product
or quotient.  Neither of the first two is ever too large, and no quotient is; so a numeral stands
for no number exactly where its product is too large, or its exponent alone.
-/

namespace LensCalibration.Decimal

open Binary

/-! ## Powers of ten -/

theorem log2_le_of_le_two_pow {n k : Nat} (h : n ≤ 2 ^ k) : n.log2 ≤ k := by
  rcases Nat.eq_zero_or_pos n with rfl | hpos
  · simp
  · have hlog := Nat.log2_self_le (n := n) (by omega)
    exact (Nat.pow_le_pow_iff_right (by decide)).1 (Nat.le_trans hlog h)

theorem log2_ten_pow_le (power : Nat) : (10 ^ power).log2 ≤ 4 * power := by
  apply log2_le_of_le_two_pow
  rw [Nat.pow_mul]
  exact Nat.pow_le_pow_left (by decide) power

theorem ten_pow_lt {power : Nat} (h : power ≤ largestPower) :
    10 ^ power < (2 ^ 54 - 1) * 2 ^ 970 :=
  calc 10 ^ power
      ≤ 10 ^ largestPower := Nat.pow_le_pow_right (by decide) h
    _ < (2 ^ 54 - 1) * 2 ^ 970 := by decide +kernel

theorem exists_doublePower {power : Nat} (h : power ≤ largestPower) :
    ∃ ten, doublePower power = some ten ∧ 0 < ten.significand ∧ ten.significand ≤ 2 ^ 53 ∧
      ((10 ^ power).log2 : Int) - 52 ≤ ten.exponent ∧ ten.exponent ≤ 4 * power - 51 := by
  have hlog := log2_ten_pow_le power
  obtain ⟨ten, hten, hpos, hsignificand, hlow, hhigh⟩ :=
    Format.exists_double_ofNat (Nat.pow_pos (by decide)) (ten_pow_lt h)
  exact ⟨ten, hten, hpos, hsignificand, hlow, by omega⟩

/-! ## Significands -/

/-- What a significand of 64 bits is rounded to, and the quotients of that. -/
def IsModest (x : Magnitude) : Prop :=
  x.significand ≤ 2 ^ 53 ∧ x.exponent ≤ 13

theorem exists_double_significand {significand : Nat} (h : significand ≤ significandLimit) :
    ∃ x, Format.double.ofNat significand = some x ∧ IsModest x ∧
      (x.significand = 0 ↔ significand = 0) := by
  rcases Nat.eq_zero_or_pos significand with rfl | hpos
  · exact ⟨_, rfl, ⟨by decide, by decide⟩, by decide⟩
  · have hlog : significand.log2 ≤ 64 := by
      apply log2_le_of_le_two_pow
      unfold significandLimit at h
      omega
    have hsmall : significand < (2 ^ 54 - 1) * 2 ^ 970 :=
      Nat.lt_of_le_of_lt h (by decide +kernel)
    obtain ⟨x, hx, hxpos, hsignificand, -, hhigh⟩ := Format.exists_double_ofNat hpos hsmall
    exact ⟨x, hx, ⟨hsignificand, by omega⟩, by omega⟩

/-! ## Quotients -/

section

variable {x : Magnitude} {power : Nat}

theorem exists_div (hx : IsModest x) (hpower : power ≤ largestPower) :
    ∃ ten y, doublePower power = some ten ∧ Format.double.div x ten = some y := by
  obtain ⟨ten, hten, -, -, hlow, -⟩ := exists_doublePower hpower
  have hlog := log2_le_of_le_two_pow hx.1
  have hfloor := floorLog_le x.significand ten.significand
  have hexponent := hx.2
  obtain ⟨y, hy⟩ : ∃ y, Format.double.div x ten = some y :=
    Format.exists_round_double (by omega)
  exact ⟨ten, y, hten, hy⟩

/-- Dividing by the largest power leaves a number that is hardly greater than one. -/
theorem isModest_div {ten y : Magnitude} (hx : IsModest x) (hpos : x.significand ≠ 0)
    (hten : doublePower largestPower = some ten) (hy : Format.double.div x ten = some y) :
    IsModest y := by
  obtain ⟨ten', hten', htenpos, -, hlow, -⟩ := exists_doublePower (Nat.le_refl largestPower)
  rw [hten] at hten'
  obtain rfl := Option.some.inj hten'
  have hgreat : 1023 ≤ (10 ^ largestPower).log2 := by decide +kernel
  have hlog := log2_le_of_le_two_pow hx.1
  have hfloor := floorLog_le x.significand ten.significand
  have hexponent := hx.2
  obtain ⟨hsignificand, -, hhigh⟩ :=
    Format.bounds_of_round_double hy (Nat.pos_of_ne_zero hpos) htenpos
  exact ⟨hsignificand, by omega⟩

theorem exists_shrinkSteps (steps : Nat) (hx : IsModest x) :
    ∃ y, shrinkSteps steps x = some y ∧ IsModest y := by
  induction steps generalizing x with
  | zero => exact ⟨x, rfl, hx⟩
  | succ steps ih =>
      rw [shrinkSteps]
      split
      · exact ⟨x, rfl, hx⟩
      · next hpos =>
          obtain ⟨ten, y, hten, hy⟩ := exists_div hx (Nat.le_refl largestPower)
          simp only [hten, hy, bind, Option.bind_some]
          -- After the first step the number is small, so no later one can fail either.
          exact ih (isModest_div hx hpos hten hy)

theorem exists_shrink (power : Nat) (hx : IsModest x) : ∃ y, shrink x power = some y := by
  obtain ⟨y, hy, hmodest⟩ := exists_shrinkSteps ((power - 1) / largestPower) hx
  have hrest : power - (power - 1) / largestPower * largestPower ≤ largestPower := by
    unfold largestPower
    omega
  obtain ⟨ten, z, hten, hz⟩ := exists_div hmodest hrest
  unfold shrink
  simp only [hy, hten, hz, bind, Option.bind_some]
  exact ⟨z, rfl⟩

end

/-! ## Products -/

/-- The product of the double of a significand and the double of a power of ten is too large. -/
def ProductOverflows (significand power : Nat) : Prop :=
  ∃ x ten, Format.double.ofNat significand = some x ∧ Format.double.ofNat (10 ^ power) = some ten ∧
    doubleLimit ≤ x.toRat * ten.toRat

theorem not_productOverflows_zero (power : Nat) : ¬ ProductOverflows 0 power := by
  rintro ⟨x, ten, hx, -, hlimit⟩
  have hzero : (⟨0, Format.double.least⟩ : Magnitude) = x := Option.some.inj hx
  have hpos : 0 < doubleLimit := by
    rw [doubleLimit_eq]
    positivity
  rw [← hzero, Magnitude.toRat, Nat.cast_zero, zero_mul, zero_mul] at hlimit
  exact absurd hpos (not_lt_of_ge hlimit)

/-- Powers well inside the range have room for any significand. -/
theorem not_productOverflows {significand power : Nat} (h : significand ≤ significandLimit)
    (hpower : power ≤ 220) : ¬ ProductOverflows significand power := by
  rintro ⟨x, ten, hx, hten, hlimit⟩
  obtain ⟨x', hx', hmodest, -⟩ := exists_double_significand h
  obtain ⟨ten', hten', -, htens, -, htene⟩ :=
    exists_doublePower (Nat.le_trans hpower (by decide : 220 ≤ largestPower))
  obtain rfl : x' = x := Option.some.inj (hx'.symm.trans hx)
  obtain rfl : ten' = ten := Option.some.inj (hten'.symm.trans hten)
  have hlog : (x'.significand * ten'.significand).log2 ≤ 106 := by
    apply log2_le_of_le_two_pow
    have := Nat.mul_le_mul hmodest.1 htens
    omega
  have hfloor := floorLog_le (x'.significand * ten'.significand) 1
  have hexponent := hmodest.2
  obtain ⟨y, hy⟩ : ∃ y, Format.double.mul x' ten' = some y :=
    Format.exists_round_double (by omega)
  rw [← Format.mul_double_eq_none, hy] at hlimit
  cases hlimit

theorem grow_eq_none {significand power : Nat} {x : Magnitude}
    (hx : Format.double.ofNat significand = some x)
    (hzero : x.significand = 0 ↔ significand = 0) :
    grow x power = none ↔
      significand ≠ 0 ∧
        (largestPower < power ∨ power ≤ largestPower ∧ ProductOverflows significand power) := by
  unfold grow
  split
  · next hpower =>
      obtain ⟨ten, hten, -⟩ := exists_doublePower hpower
      have hproduct : ProductOverflows significand power ↔ doubleLimit ≤ x.toRat * ten.toRat := by
        constructor
        · rintro ⟨x', ten', hx', hten', hlimit⟩
          rw [hx] at hx'
          rw [show Format.double.ofNat (10 ^ power) = some ten from hten] at hten'
          cases hx'
          cases hten'
          exact hlimit
        · exact fun hlimit => ⟨x, ten, hx, hten, hlimit⟩
      simp only [hten, bind, Option.bind_some, Format.mul_double_eq_none, ← hproduct]
      constructor
      · intro h
        refine ⟨?_, .inr ⟨hpower, h⟩⟩
        rintro rfl
        exact not_productOverflows_zero power h
      · rintro ⟨-, hlarge | ⟨-, h⟩⟩
        · omega
        · exact h
  · next hpower =>
      rw [Ne, ← hzero]
      split
      · next hx => simp [hx]
      · next hx => exact iff_of_true rfl ⟨hx, .inl (by omega)⟩

theorem toDouble_eq_none {significand : Nat} (h : significand ≤ significandLimit)
    (exponent : Int) :
    toDouble significand exponent = none ↔
      significand ≠ 0 ∧
        (308 < exponent ∨
          0 ≤ exponent ∧ exponent ≤ 308 ∧ ProductOverflows significand exponent.toNat) := by
  obtain ⟨x, hx, hmodest, hzero⟩ := exists_double_significand h
  unfold toDouble
  simp only [hx, bind, Option.bind_some]
  split
  · next hpositive =>
      rw [grow_eq_none hx hzero]
      have hlarge : largestPower < exponent.toNat ↔ 308 < exponent := by
        unfold largestPower
        omega
      have hsmall : exponent.toNat ≤ largestPower ↔ 0 ≤ exponent ∧ exponent ≤ 308 := by
        unfold largestPower
        omega
      rw [hlarge, hsmall, and_assoc]
  · next hnegative =>
      obtain ⟨y, hy⟩ := exists_shrink (-exponent).toNat hmodest
      rw [hy]
      simp only [reduceCtorEq, false_iff]
      rintro ⟨-, hlarge | ⟨hpositive, -⟩⟩
      · omega
      · exact hnegative hpositive

/-! ## Numerals -/

theorem gathered_fst_le (n : Numeral) : n.gathered.1 ≤ significandLimit :=
  absorb_fst_le n.fraction (absorb_fst_le n.whole (Nat.zero_le significandLimit))

/-- Digits that fit 64 bits are all gathered, and the point moves behind them. -/
theorem gathered_of_le {n : Numeral}
    (h : appendDigits 0 (n.whole ++ n.fraction) ≤ significandLimit) :
    n.gathered = (appendDigits 0 (n.whole ++ n.fraction), -(n.fraction.length : Int)) := by
  have happend : appendDigits 0 (n.whole ++ n.fraction) =
      appendDigits (appendDigits 0 n.whole) n.fraction := List.foldl_append
  rw [happend] at h ⊢
  have hwhole := Nat.le_trans (le_appendDigits _ n.fraction) h
  simp [Numeral.gathered, absorb_eq hwhole, absorb_eq h]

/--
Written as a double, with other digits than zeros, and either too long an exponent that is not
negative, or a power of ten that is too large for the digits.
-/
def Numeral.Overflows (n : Numeral) : Prop :=
  n.integer? = none ∧ n.gathered.1 ≠ 0 ∧
    match n.writtenExponent with
    | .error _ => n.exponent.any Exponent.negative = false
    | .ok written =>
        let exponent := n.gathered.2 + written
        308 < exponent ∨
          0 ≤ exponent ∧ exponent ≤ 308 ∧ ProductOverflows n.gathered.1 exponent.toNat

theorem exists_value_iff (n : Numeral) : (∃ x, n.value = .ok x) ↔ ¬ n.Overflows := by
  unfold Numeral.value Numeral.Overflows
  cases n.integer? with
  | some i => simp
  | none =>
      cases n.writtenExponent with
      | ok written =>
          have hdouble := toDouble_eq_none (gathered_fst_le n) (n.gathered.2 + written)
          simp only [true_and, ← hdouble]
          cases toDouble n.gathered.1 (n.gathered.2 + written) <;> simp
      | error unread =>
          by_cases hzero : n.gathered.1 = 0
          · simp [hzero]
          · cases n.exponent.any Exponent.negative <;> simp [hzero]

theorem exists_value {n : Numeral} {written : Int} (hwritten : n.writtenExponent = .ok written)
    (h : n.whole.length + written ≤ 220) : ∃ x, n.value = .ok x := by
  rw [exists_value_iff, Numeral.Overflows, hwritten]
  have hdropped := length_absorb_snd_le significandLimit 0 n.whole
  have hexponent : n.gathered.2 + written ≤ 220 := by
    simp only [Numeral.gathered]
    omega
  rintro ⟨-, -, hlarge | ⟨-, -, hproduct⟩⟩
  · omega
  · exact not_productOverflows (gathered_fst_le n) (by omega) hproduct

end LensCalibration.Decimal
