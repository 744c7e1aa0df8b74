import Mathlib
import LensCalibration.Binary.Format

/-!
# Rounding to doubles

A quotient is rounded to 53 bits behind its leading one.  It is too large for a double from halfway
between the largest double and the next power of two on, and has one otherwise.
-/

namespace LensCalibration.Binary

/-! ## Quotients and leading bits -/

theorem nearestQuotient_le (numerator denominator : Nat) :
    nearestQuotient numerator denominator ≤ numerator / denominator + 1 := by
  unfold nearestQuotient
  simp only
  split <;> omega

theorem le_nearestQuotient (numerator denominator : Nat) :
    numerator / denominator ≤ nearestQuotient numerator denominator := by
  unfold nearestQuotient
  simp only
  split <;> omega

/-- The quotient is rounded up to a power of two from the middle of the last step on. -/
theorem nearestQuotient_eq_two_pow {numerator denominator : Nat} (h : 0 < denominator)
    (hbelow : numerator < 2 ^ 53 * denominator) :
    nearestQuotient numerator denominator = 2 ^ 53 ↔
      (2 ^ 54 - 1) * denominator ≤ 2 * numerator := by
  have hsplit := Nat.div_add_mod' numerator denominator
  have hrest := Nat.mod_lt numerator h
  have hquotient : numerator / denominator < 2 ^ 53 := (Nat.div_lt_iff_lt_mul h).2 hbelow
  unfold nearestQuotient
  simp only
  rcases Nat.lt_or_ge (numerator / denominator) (2 ^ 53 - 1) with hlow | hhigh
  · -- One step further is still below the power.
    have hstep : (numerator / denominator + 1) * denominator ≤ (2 ^ 53 - 1) * denominator :=
      Nat.mul_le_mul_right denominator hlow
    rw [Nat.add_mul, Nat.one_mul] at hstep
    constructor
    · split <;> omega
    · omega
  · have hlast : numerator / denominator = 2 ^ 53 - 1 := by omega
    rw [hlast] at hsplit ⊢
    split
    · next hcompare =>
        rw [Nat.compare_eq_lt] at hcompare
        omega
    · next hcompare =>
        rw [Nat.compare_eq_eq] at hcompare
        omega
    · next hcompare =>
        rw [Nat.compare_eq_gt] at hcompare
        omega

theorem floorLog_le (numerator denominator : Nat) :
    floorLog numerator denominator ≤ numerator.log2 - denominator.log2 := by
  unfold floorLog
  simp only
  split <;> omega

theorem floorLog_one {n : Nat} (h : 0 < n) : floorLog n 1 = n.log2 := by
  have hle : 2 ^ n.log2 ≤ n := Nat.log2_self_le (by omega)
  have hlog : Nat.log2 1 = 0 := by decide
  unfold floorLog
  simp only [hlog]
  rw [if_pos (by simpa using hle)]
  simp

/-- The quotient stays below the next power of two. -/
theorem lt_floorLog {numerator denominator : Nat} (h : 0 < denominator) {up down : Nat}
    (hscale : floorLog numerator denominator + 1 + down ≤ up) :
    numerator * 2 ^ down < denominator * 2 ^ up := by
  unfold floorLog at hscale
  simp only [Nat.pow_eq] at hscale
  split at hscale
  · have hupper : numerator < 2 ^ (numerator.log2 + 1) := Nat.lt_log2_self
    have hlower : 2 ^ denominator.log2 ≤ denominator := Nat.log2_self_le (by omega)
    calc numerator * 2 ^ down
        < 2 ^ (numerator.log2 + 1) * 2 ^ down :=
          Nat.mul_lt_mul_of_pos_right hupper (Nat.two_pow_pos _)
      _ = 2 ^ (numerator.log2 + 1 + down) := (Nat.pow_add ..).symm
      _ ≤ 2 ^ (denominator.log2 + up) := Nat.pow_le_pow_right (by decide) (by omega)
      _ = 2 ^ denominator.log2 * 2 ^ up := Nat.pow_add ..
      _ ≤ denominator * 2 ^ up := Nat.mul_le_mul_right _ hlower
  · next hestimate =>
      generalize hlogs : (numerator.log2 : Int) - denominator.log2 = estimate at *
      have hbelow := Nat.lt_of_not_le hestimate
      have hleft : numerator * 2 ^ down ≤
          numerator * 2 ^ (-estimate).toNat * 2 ^ (up - estimate.toNat) := by
        rw [Nat.mul_assoc, ← Nat.pow_add]
        exact Nat.mul_le_mul_left _ (Nat.pow_le_pow_right (by decide) (by omega))
      calc numerator * 2 ^ down
          ≤ numerator * 2 ^ (-estimate).toNat * 2 ^ (up - estimate.toNat) := hleft
        _ < denominator * 2 ^ estimate.toNat * 2 ^ (up - estimate.toNat) :=
          Nat.mul_lt_mul_of_pos_right hbelow (Nat.two_pow_pos _)
        _ = denominator * 2 ^ up := by
          rw [Nat.mul_assoc, ← Nat.pow_add]
          congr 2
          omega

namespace Format

/-! ## Rounding -/

theorem lastPlace_double (top : Int) : double.lastPlace top = max (-1074) (top - 52) := by
  simp only [lastPlace, double]
  omega

/-- The leading bit decides whether a number lies beyond the largest value. -/
theorem exists_round_double {numerator denominator : Nat} {exponent : Int}
    (h : floorLog numerator denominator + exponent ≤ 1022) :
    ∃ x, double.round numerator denominator exponent = some x := by
  unfold round
  by_cases hzero : numerator = 0
  · exact ⟨_, if_pos hzero⟩
  · have hplace : double.lastPlace (floorLog numerator denominator + exponent) ≤ 970 := by
      rw [lastPlace_double]
      omega
    have hgreatest : double.greatest = 971 := rfl
    rw [if_neg hzero]
    simp only
    rw [if_neg ?_]
    · exact ⟨_, rfl⟩
    · split <;> simp only [hgreatest] <;> omega

theorem scaled_lt (numerator : Nat) {denominator : Nat} {exponent place : Int} (h : 0 < denominator)
    (hplace : floorLog numerator denominator + exponent - 52 ≤ place) :
    numerator * 2 ^ (exponent - place).toNat <
      2 ^ 53 * (denominator * 2 ^ (place - exponent).toNat) := by
  rw [Nat.mul_left_comm, ← Nat.pow_add]
  exact lt_floorLog h (by omega)

/-- A significand has at most 53 bits, and its last place is near the leading one. -/
theorem bounds_of_round_double {numerator denominator : Nat} {exponent : Int} {x : Magnitude}
    (h : double.round numerator denominator exponent = some x) (hnumerator : 0 < numerator)
    (hdenominator : 0 < denominator) :
    x.significand ≤ 2 ^ 53 ∧ floorLog numerator denominator + exponent - 52 ≤ x.exponent ∧
      x.exponent ≤ max (-1074) (floorLog numerator denominator + exponent - 52) + 1 := by
  unfold round at h
  rw [if_neg (by omega)] at h
  simp only [lastPlace_double, Nat.pow_eq, show double.precision = 53 from rfl] at h
  generalize hplace : max (-1074) (floorLog numerator denominator + exponent - 52) = place at *
  have hscaled : numerator * 2 ^ (exponent - place).toNat <
      2 ^ 53 * (denominator * 2 ^ (place - exponent).toNat) :=
    scaled_lt numerator hdenominator (by omega)
  have hpositive : 0 < denominator * 2 ^ (place - exponent).toNat :=
    Nat.mul_pos hdenominator (Nat.two_pow_pos _)
  have hquotient := (Nat.div_lt_iff_lt_mul hpositive).2 hscaled
  have hnearest := nearestQuotient_le (numerator * 2 ^ (exponent - place).toNat)
    (denominator * 2 ^ (place - exponent).toNat)
  split at h
  · split at h
    · cases h
    · cases h
      exact ⟨by simp only; omega, by simp only; omega, by simp only; omega⟩
  · split at h
    · cases h
    · cases h
      exact ⟨by simp only; omega, by simp only; omega, by simp only; omega⟩

/-! ## Whole numbers and their multiples -/

theorem round_double_of_pos {n : Nat} (h : 0 < n) (exponent : Int) :
    double.round n 1 exponent =
      let place := max (-1074) ((n.log2 : Int) + exponent - 52)
      let quotient := nearestQuotient (n * 2 ^ (exponent - place).toNat)
        (1 * 2 ^ (place - exponent).toNat)
      if quotient = 2 ^ 53 then if 971 < place + 1 then none else some ⟨2 ^ 52, place + 1⟩
      else if 971 < place then none else some ⟨quotient, place⟩ := by
  unfold round
  rw [if_neg (by omega)]
  simp only [lastPlace_double, floorLog_one h, Nat.pow_eq, show double.precision = 53 from rfl,
    show double.greatest = 971 from rfl]
  split <;> rfl

theorem round_double_eq_none_of_top {n : Nat} {exponent : Int} (h : 0 < n)
    (htop : (n.log2 : Int) + exponent = 1023) :
    double.round n 1 exponent = none ↔
      (2 ^ 54 - 1) * 2 ^ (970 - exponent).toNat ≤ n * 2 ^ (exponent - 970).toNat := by
  have hbelow : n < 2 ^ (n.log2 + 1) := Nat.lt_log2_self
  have hplace : max (-1074) ((n.log2 : Int) + exponent - 52) = 971 := by omega
  have hnone : double.round n 1 exponent = none ↔
      nearestQuotient (n * 2 ^ (exponent - 971).toNat) (1 * 2 ^ (971 - exponent).toNat) =
        2 ^ 53 := by
    rw [round_double_of_pos h]
    simp only [hplace]
    split <;> simp_all
  have hscaled : n * 2 ^ (exponent - 971).toNat < 2 ^ 53 * (1 * 2 ^ (971 - exponent).toNat) := by
    apply scaled_lt n Nat.one_pos
    rw [floorLog_one h]
    omega
  rw [hnone, nearestQuotient_eq_two_pow (by positivity) hscaled]
  rcases lt_or_ge exponent 971 with hlow | hhigh
  · have hd : (971 - exponent).toNat = (970 - exponent).toNat + 1 := by omega
    have hzero : (exponent - 971).toNat = 0 := by omega
    have hzero' : (exponent - 970).toNat = 0 := by omega
    rw [hd, hzero, hzero', Nat.pow_succ]
    omega
  · have hd : (exponent - 970).toNat = (exponent - 971).toNat + 1 := by omega
    have hzero : (971 - exponent).toNat = 0 := by omega
    have hzero' : (970 - exponent).toNat = 0 := by omega
    have hdouble : n * 2 ^ (exponent - 970).toNat = 2 * (n * 2 ^ (exponent - 971).toNat) := by
      rw [hd, Nat.pow_succ]
      ring
    rw [hdouble, hzero, hzero']
    omega

/-- What is at least halfway between the largest double and the next power of two is too large. -/
theorem round_double_eq_none {n : Nat} {exponent : Int} :
    double.round n 1 exponent = none ↔
      (2 ^ 54 - 1) * 2 ^ (970 - exponent).toNat ≤ n * 2 ^ (exponent - 970).toNat := by
  rcases Nat.eq_zero_or_pos n with rfl | hpos
  · have hround : double.round 0 1 exponent = some ⟨0, -1074⟩ := rfl
    have hscale : 0 < 2 ^ (970 - exponent).toNat := Nat.two_pow_pos _
    rw [hround]
    simp only [reduceCtorEq, false_iff]
    omega
  have hlower : 2 ^ n.log2 ≤ n := Nat.log2_self_le (by omega)
  have hupper : n < 2 ^ (n.log2 + 1) := Nat.lt_log2_self
  -- Only with the leading bit in the last place of the doubles does the quotient decide.
  rcases Int.lt_trichotomy ((n.log2 : Int) + exponent) 1023 with htop | htop | htop
  · obtain ⟨x, hx⟩ : ∃ x, double.round n 1 exponent = some x := by
      apply exists_round_double
      rw [floorLog_one hpos]
      omega
    have hbelow : n * 2 ^ (exponent - 970).toNat < (2 ^ 54 - 1) * 2 ^ (970 - exponent).toNat :=
      calc n * 2 ^ (exponent - 970).toNat
          < 2 ^ (n.log2 + 1) * 2 ^ (exponent - 970).toNat :=
            Nat.mul_lt_mul_of_pos_right hupper (Nat.two_pow_pos _)
        _ = 2 ^ (n.log2 + 1 + (exponent - 970).toNat) := (Nat.pow_add ..).symm
        _ ≤ 2 ^ (53 + (970 - exponent).toNat) := Nat.pow_le_pow_right (by decide) (by omega)
        _ = 2 ^ 53 * 2 ^ (970 - exponent).toNat := Nat.pow_add ..
        _ ≤ (2 ^ 54 - 1) * 2 ^ (970 - exponent).toNat := Nat.mul_le_mul_right _ (by decide)
    rw [hx]
    simp only [reduceCtorEq, false_iff]
    omega
  · exact round_double_eq_none_of_top hpos htop
  · have hnone : double.round n 1 exponent = none := by
      rw [round_double_of_pos hpos]
      simp only
      split <;> exact if_pos (by omega)
    have habove : (2 ^ 54 - 1) * 2 ^ (970 - exponent).toNat ≤ n * 2 ^ (exponent - 970).toNat :=
      calc (2 ^ 54 - 1) * 2 ^ (970 - exponent).toNat
          ≤ 2 ^ 54 * 2 ^ (970 - exponent).toNat := Nat.mul_le_mul_right _ (by decide)
        _ = 2 ^ (54 + (970 - exponent).toNat) := (Nat.pow_add ..).symm
        _ ≤ 2 ^ (n.log2 + (exponent - 970).toNat) := Nat.pow_le_pow_right (by decide) (by omega)
        _ = 2 ^ n.log2 * 2 ^ (exponent - 970).toNat := Nat.pow_add ..
        _ ≤ n * 2 ^ (exponent - 970).toNat := Nat.mul_le_mul_right _ hlower
    exact iff_of_true hnone habove

/-- A whole number is rounded to 53 bits, of which the last has its place near the leading one. -/
theorem exists_double_ofNat {n : Nat} (hpos : 0 < n) (h : n < (2 ^ 54 - 1) * 2 ^ 970) :
    ∃ x, double.ofNat n = some x ∧ 0 < x.significand ∧ x.significand ≤ 2 ^ 53 ∧
      (n.log2 : Int) - 52 ≤ x.exponent ∧ x.exponent ≤ n.log2 - 51 := by
  obtain ⟨x, hx⟩ : ∃ x, double.round n 1 0 = some x := by
    have hdown : ((970 : Int) - 0).toNat = 970 := rfl
    have hup : ((0 : Int) - 970).toNat = 0 := rfl
    rw [← Option.ne_none_iff_exists', Ne, round_double_eq_none, hdown, hup, Nat.pow_zero,
      Nat.mul_one]
    exact Nat.not_le.2 h
  obtain ⟨hsignificand, hlow, hhigh⟩ := bounds_of_round_double hx hpos Nat.one_pos
  rw [floorLog_one hpos] at hlow hhigh
  refine ⟨x, hx, ?_, hsignificand, by omega, by omega⟩
  have hplace : max (-1074) ((n.log2 : Int) + 0 - 52) = n.log2 - 52 := by omega
  rw [round_double_of_pos hpos] at hx
  simp only [hplace] at hx
  split at hx
  · split at hx
    · cases hx
    · cases hx
      exact Nat.two_pow_pos 52
  · split at hx
    · cases hx
    · cases hx
      have hone : 1 * 2 ^ ((n.log2 : Int) - 52 - 0).toNat ≤
          n * 2 ^ (0 - ((n.log2 : Int) - 52)).toNat :=
        calc 1 * 2 ^ ((n.log2 : Int) - 52 - 0).toNat
            ≤ 2 ^ n.log2 := by
              rw [Nat.one_mul]
              exact Nat.pow_le_pow_right (by decide) (by omega)
          _ ≤ n := Nat.log2_self_le (by omega)
          _ ≤ n * 2 ^ (0 - ((n.log2 : Int) - 52)).toNat :=
            Nat.le_mul_of_pos_right n (Nat.two_pow_pos _)
      exact Nat.lt_of_lt_of_le (Nat.div_pos hone (by positivity)) (le_nearestQuotient ..)

end Format

/-! ## Exact values -/

def Magnitude.toRat (x : Magnitude) : ℚ :=
  x.significand * 2 ^ x.exponent

/-- Halfway between the largest double and the next power of two. -/
def doubleLimit : ℚ :=
  (2 ^ 53 - 1 / 2) * 2 ^ 971

theorem doubleLimit_eq : doubleLimit = (2 ^ 54 - 1 : ℕ) * 2 ^ 970 := by
  have hcast : ((2 ^ 54 - 1 : ℕ) : ℚ) = 2 ^ 54 - 1 := by norm_num
  rw [doubleLimit, hcast, pow_succ (2 : ℚ) 970]
  generalize (2 : ℚ) ^ 970 = scale
  ring

theorem doubleLimit_le {n : Nat} {exponent : Int} :
    doubleLimit ≤ n * 2 ^ exponent ↔
      (2 ^ 54 - 1) * 2 ^ (970 - exponent).toNat ≤ n * 2 ^ (exponent - 970).toNat := by
  have hscale : (0 : ℚ) < 2 ^ (970 : ℕ) := by positivity
  rw [doubleLimit_eq]
  generalize 2 ^ 54 - 1 = limit
  rcases le_total exponent 970 with hlow | hhigh
  · obtain ⟨k, hk⟩ := Int.eq_ofNat_of_zero_le (Int.sub_nonneg_of_le hlow)
    obtain rfl : exponent = (970 : ℕ) - (k : ℕ) := by omega
    have hup : ((970 : ℕ) - (k : ℕ) - 970 : Int).toNat = 0 := by omega
    have hdown : (970 - ((970 : ℕ) - (k : ℕ)) : Int).toNat = k := by omega
    rw [hup, hdown, pow_zero, mul_one, zpow_sub₀ two_ne_zero, zpow_natCast, zpow_natCast,
      mul_div_assoc', le_div_iff₀ (by positivity), mul_right_comm, mul_le_mul_iff_left₀ hscale]
    exact_mod_cast Iff.rfl
  · obtain ⟨k, hk⟩ := Int.eq_ofNat_of_zero_le (Int.sub_nonneg_of_le hhigh)
    obtain rfl : exponent = (970 : ℕ) + (k : ℕ) := by omega
    have hup : ((970 : ℕ) + (k : ℕ) - 970 : Int).toNat = k := by omega
    have hdown : (970 - ((970 : ℕ) + (k : ℕ)) : Int).toNat = 0 := by omega
    rw [hup, hdown, pow_zero, mul_one, zpow_add₀ two_ne_zero, zpow_natCast, zpow_natCast,
      mul_left_comm, mul_comm ((2 : ℚ) ^ 970), mul_le_mul_iff_left₀ hscale]
    exact_mod_cast Iff.rfl

theorem Format.mul_double_eq_none {x y : Magnitude} :
    double.mul x y = none ↔ doubleLimit ≤ x.toRat * y.toRat := by
  have hproduct : x.toRat * y.toRat =
      (x.significand * y.significand : Nat) * 2 ^ (x.exponent + y.exponent) := by
    rw [Magnitude.toRat, Magnitude.toRat, zpow_add₀ two_ne_zero]
    push_cast
    ring
  rw [mul, round_double_eq_none, hproduct, doubleLimit_le]

end LensCalibration.Binary
