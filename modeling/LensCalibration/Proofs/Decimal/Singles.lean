import LensCalibration.Proofs.Decimal.Doubles

/-!
# The numerals of singles

The shortest decimal of a single is a point of a grid that reaches into its rounding interval.  It
is never zero and never far from the single, so that the numeral of every finite single is
grammatical and stands for a number.
-/

namespace LensCalibration.Decimal

open Binary

/-! ## Points of a grid -/

namespace Interval

variable {i : Interval} {k : Int}

/-- The unit of the interval, counted as `step` is. -/
def units (i : Interval) (k : Int) : Nat :=
  10 ^ (-k).toNat * 2 ^ i.unit.toNat

/-- The distance of two points of the grid `10 ^ k`. -/
def step (i : Interval) (k : Int) : Nat :=
  10 ^ k.toNat * 2 ^ (-i.unit).toNat

def contains (i : Interval) (k : Int) (d : Nat) : Bool :=
  if i.closed then i.lower * i.units k ≤ d * i.step k ∧ d * i.step k ≤ i.upper * i.units k
  else i.lower * i.units k < d * i.step k ∧ d * i.step k < i.upper * i.units k

theorem step_pos (i : Interval) (k : Int) : 0 < i.step k :=
  Nat.mul_pos (Nat.pow_pos (by decide)) (Nat.two_pow_pos _)

theorem units_pos (i : Interval) (k : Int) : 0 < i.units k :=
  Nat.mul_pos (Nat.pow_pos (by decide)) (Nat.two_pow_pos _)

theorem bounds_of_contains {d : Nat} (h : i.contains k d = true) :
    i.lower * i.units k ≤ d * i.step k ∧ d * i.step k ≤ i.upper * i.units k := by
  unfold contains at h
  split at h
  · simpa using h
  · have := of_decide_eq_true h
    omega

theorem onGrid?_eq (i : Interval) (k : Int) :
    ∃ below, below * i.step k ≤ i.center * i.units k ∧
      i.center * i.units k < below * i.step k + i.step k ∧
      i.onGrid? k = match i.contains k below, i.contains k (below + 1) with
        | false, false => none
        | true, false => some below
        | false, true => some (below + 1)
        | true, true =>
            match compare (2 * i.center * i.units k) ((2 * below + 1) * i.step k) with
            | .lt => some below
            | .eq => some (below + below % 2)
            | .gt => some (below + 1) :=
  ⟨i.center * i.units k / i.step k, Nat.div_mul_le_self _ _,
    Nat.lt_div_mul_add (i.step_pos k), rfl⟩

theorem contains_of_onGrid? {d : Nat} (h : i.onGrid? k = some d) : i.contains k d = true := by
  obtain ⟨below, -, -, heq⟩ := i.onGrid?_eq k
  rw [heq] at h
  split at h
  · cases h
  · next hbelow _ =>
      cases h
      exact hbelow
  · next _ habove =>
      cases h
      exact habove
  · next hbelow habove =>
      split at h
      · cases h
        exact hbelow
      · cases h
        rcases Nat.mod_two_eq_zero_or_one below with heven | hodd
        · rw [heven]
          exact hbelow
        · rw [hodd]
          exact habove
      · cases h
        exact habove

/-- The first point above the center is close enough, if none other is. -/
theorem exists_onGrid? (hlower : i.lower ≤ i.center) (hupper : i.center + 2 ≤ i.upper)
    (hfine : i.step k < 2 * i.units k) : ∃ d, i.onGrid? k = some d := by
  obtain ⟨below, hbelow, habove, heq⟩ := i.onGrid?_eq k
  have hcontains : i.contains k (below + 1) = true := by
    have hlow := Nat.mul_le_mul_right (i.units k) hlower
    have hhigh := Nat.mul_le_mul_right (i.units k) hupper
    have hpoint : (below + 1) * i.step k = below * i.step k + i.step k := Nat.succ_mul _ _
    rw [Nat.add_mul] at hhigh
    unfold contains
    split <;> simp only [hpoint, decide_eq_true_eq] <;> omega
  rw [heq, hcontains]
  cases i.contains k below
  · exact ⟨_, rfl⟩
  · simp only
    split <;> exact ⟨_, rfl⟩

/-- The search ends with a point of its grid once the last grid has one. -/
theorem onGrid?_coarsest (i : Interval) (grids : Nat) (k : Int)
    (h : ∃ d, i.onGrid? (k - grids) = some d) :
    i.onGrid? (i.coarsest grids k).exponent = some (i.coarsest grids k).digits ∧
      k - grids ≤ (i.coarsest grids k).exponent ∧ (i.coarsest grids k).exponent ≤ k := by
  induction grids generalizing k with
  | zero =>
      obtain ⟨d, hd⟩ := h
      rw [show k - (0 : Nat) = k by omega] at hd
      simp [coarsest, hd]
  | succ grids ih =>
      unfold coarsest
      split
      · next d hd => exact ⟨hd, by simp only; omega, by simp only; omega⟩
      · have hshift : k - (grids + 1 : Nat) = k - 1 - grids := by omega
        rw [hshift] at h ⊢
        obtain ⟨hpoint, hlow, hhigh⟩ := ih (k - 1) h
        exact ⟨hpoint, hlow, by omega⟩

/-- An interval around a single. -/
structure IsSingle (i : Interval) : Prop where
  lower_pos : 0 < i.lower
  lower_le : i.lower ≤ i.center
  upper_eq : i.upper = i.center + 2
  upper_le : i.upper ≤ 2 ^ 26
  unit_low : -151 ≤ i.unit
  unit_high : i.unit ≤ 102

theorem IsSingle.above_bounds (h : i.IsSingle) : -44 ≤ i.above ∧ i.above ≤ 40 := by
  have hlog := log2_le_of_le_two_pow h.upper_le
  have hlow := h.unit_low
  have hhigh := h.unit_high
  unfold above
  omega

/-- The last grid is finer than half the interval; for that, `2 ^ 3 ≤ 10 ≤ 2 ^ 4` is enough. -/
theorem IsSingle.step_lt_units (h : i.IsSingle) (hk : k = i.above - 28) :
    i.step k < 2 * i.units k := by
  have hlog := log2_le_of_le_two_pow h.upper_le
  have hlow := h.unit_low
  have hhigh := h.unit_high
  unfold above at hk
  have hten (n : Nat) : 2 ^ (3 * n) ≤ 10 ^ n := by
    rw [Nat.pow_mul]
    exact Nat.pow_le_pow_left (by decide) n
  have hsixteen (n : Nat) : 10 ^ n ≤ 2 ^ (4 * n) := by
    rw [Nat.pow_mul]
    exact Nat.pow_le_pow_left (by decide) n
  have hstep : i.step k ≤ 2 ^ (4 * k.toNat + (-i.unit).toNat) := by
    rw [Nat.pow_add]
    exact Nat.mul_le_mul_right _ (hsixteen _)
  have hunits : 2 ^ (3 * (-k).toNat + i.unit.toNat) ≤ i.units k := by
    rw [Nat.pow_add]
    exact Nat.mul_le_mul_right _ (hten _)
  have hpow : 2 ^ (4 * k.toNat + (-i.unit).toNat) ≤ 2 ^ (3 * (-k).toNat + i.unit.toNat) :=
    Nat.pow_le_pow_right (by decide) (by omega)
  have hpos := i.units_pos k
  omega

/-- A point of a grid of the search is not zero, and has at most 111 digits. -/
theorem IsSingle.point_bounds {d : Nat} (h : i.IsSingle) (hk : -72 ≤ k)
    (hd : i.contains k d = true) : 0 < d ∧ d < 10 ^ 111 := by
  obtain ⟨hlow, hhigh⟩ := bounds_of_contains hd
  constructor
  · have hpos := Nat.mul_pos h.lower_pos (i.units_pos k)
    exact Nat.pos_of_mul_pos_right (Nat.lt_of_lt_of_le hpos hlow)
  · have hunits : i.units k ≤ 10 ^ 72 * 2 ^ 102 := by
      have hunit := h.unit_high
      exact Nat.mul_le_mul (Nat.pow_le_pow_right (by decide) (by omega))
        (Nat.pow_le_pow_right (by decide) (by omega))
    calc d ≤ d * i.step k := Nat.le_mul_of_pos_right d (i.step_pos k)
      _ ≤ i.upper * i.units k := hhigh
      _ ≤ 2 ^ 26 * (10 ^ 72 * 2 ^ 102) := Nat.mul_le_mul h.upper_le hunits
      _ < 10 ^ 111 := by decide

theorem IsSingle.coarsest_bounds (h : i.IsSingle) :
    0 < (i.coarsest 28 i.above).digits ∧ (i.coarsest 28 i.above).digits < 10 ^ 111 ∧
      -72 ≤ (i.coarsest 28 i.above).exponent ∧ (i.coarsest 28 i.above).exponent ≤ 40 := by
  have hcenter : i.center + 2 ≤ i.upper := Nat.le_of_eq h.upper_eq.symm
  obtain ⟨hpoint, hlow, hhigh⟩ := i.onGrid?_coarsest 28 i.above
    (exists_onGrid? h.lower_le hcenter (h.step_lt_units rfl))
  obtain ⟨hbelow, habove⟩ := h.above_bounds
  obtain ⟨hpos, hlt⟩ := h.point_bounds (by omega) (contains_of_onGrid? hpoint)
  exact ⟨hpos, hlt, by omega, by omega⟩

end Interval

/-! ## Magnitudes of singles -/

theorem magnitude_bounds {x : Single} {negative : Bool} {magnitude : Magnitude}
    (h : x.datum = .finite negative magnitude) :
    magnitude.significand < 2 ^ 24 ∧ -149 ≤ magnitude.exponent ∧ magnitude.exponent ≤ 104 := by
  have hleast : Format.single.least = -149 := rfl
  unfold Single.datum at h
  simp only [hleast] at h
  split at h
  · split at h <;> cases h
  · split at h
    · cases h
      simp only
      omega
    · cases h
      simp only
      omega

theorem isSingle_ofMagnitude {x : Magnitude} (hpos : 0 < x.significand)
    (hsignificand : x.significand < 2 ^ 24) (hlow : -149 ≤ x.exponent)
    (hhigh : x.exponent ≤ 104) : (Interval.ofMagnitude Format.single x).IsSingle := by
  unfold Interval.ofMagnitude
  constructor
  · simp only
    split <;> omega
  · exact Nat.sub_le _ _
  · rfl
  · simp only
    omega
  · simp only
    omega
  · simp only
    omega

/-! ## Layouts -/

theorem isWhole_append {digits : List Digit} (h : ∃ d rest, digits = d :: rest ∧ d ≠ .zero)
    (others : List Digit) : IsWhole (digits ++ others) := by
  obtain ⟨d, rest, rfl, hd⟩ := h
  exact .inr ⟨d, rest ++ others, rfl, hd⟩

theorem isWhole_take {digits : List Digit} (h : ∃ d rest, digits = d :: rest ∧ d ≠ .zero)
    (n : Nat) :
    IsWhole (digits.take (n + 1)) := by
  obtain ⟨d, rest, rfl, hd⟩ := h
  exact .inr ⟨d, rest.take n, rfl, hd⟩

theorem isGrammatical_layout (style : Layout) (negative : Bool) {x : Scaled}
    (h : 0 < x.digits) : (style.numeral negative x).IsGrammatical := by
  have hhead := digitsOf_head h
  unfold Layout.numeral
  simp only
  split
  · split
    · exact ⟨isWhole_append hhead _, fun e he => by cases he⟩
    · split
      · exact ⟨isWhole_take hhead _, fun e he => by cases he⟩
      · exact ⟨.inl rfl, fun e he => by cases he⟩
  · refine ⟨isWhole_take hhead 0, fun e he => ?_⟩
    cases he
    exact digitsOf_ne_nil _

theorem writtenExponent_digitsOf {n : Numeral} {e : Int}
    (h : n.exponent = some ⟨e < 0, digitsOf e.natAbs⟩) (hsmall : e.natAbs ≤ exponentLimit) :
    n.writtenExponent = .ok e := by
  have habsorb : absorb exponentLimit 0 (digitsOf e.natAbs) = (e.natAbs, []) := by
    have := appendDigits_digitsOf e.natAbs
    rw [absorb_eq (by omega), this]
  unfold Numeral.writtenExponent
  simp only [h, habsorb, decide_eq_true_eq]
  congr 1
  split <;> omega

theorem exists_value_layout (style : Layout) (negative : Bool) {x : Scaled}
    (hdigits : x.digits < 10 ^ 111) (hlow : -72 ≤ x.exponent) (hhigh : x.exponent ≤ 40) :
    ∃ y, (style.numeral negative x).value = .ok y := by
  have hlength := length_digitsOf_le hdigits
  have hpos := List.length_pos_iff.2 (digitsOf_ne_nil x.digits)
  unfold Layout.numeral
  simp only
  split
  · split
    · apply exists_value rfl
      simp
      omega
    · split
      · apply exists_value rfl
        simp
        omega
      · apply exists_value rfl
        simp
  · apply exists_value (writtenExponent_digitsOf rfl ?_)
    · simp
      omega
    · unfold exponentLimit
      omega

/-! ## Numerals of singles -/

theorem numeral?_eq_none {x : Single} (h : x.isFinite = false) : numeral? x = none := by
  unfold numeral?
  unfold Single.isFinite at h
  split
  · next heq =>
      rw [heq] at h
      cases h
  · rfl

/-- A finite single has a numeral, and that numeral is one that stands for a number. -/
theorem exists_numeral? {x : Single} (h : x.isFinite) :
    ∃ n y, numeral? x = some n ∧ n.IsGrammatical ∧ n.value = .ok y := by
  unfold Single.isFinite at h
  split at h
  · next negative magnitude heq =>
      obtain ⟨hsignificand, hlow, hhigh⟩ := magnitude_bounds heq
      unfold numeral?
      simp only [heq, Layout.ofMagnitude]
      split
      · have hzero : ∃ y, (⟨negative, [.zero], [.zero], none⟩ : Numeral).value = .ok y :=
          exists_value rfl (by simp)
        obtain ⟨y, hy⟩ := hzero
        exact ⟨_, y, rfl, ⟨.inl rfl, fun e he => by cases he⟩, hy⟩
      · next hne =>
          have hsingle := isSingle_ofMagnitude (by omega) hsignificand hlow hhigh
          obtain ⟨hpos, hdigits, hbelow, habove⟩ := hsingle.coarsest_bounds
          obtain ⟨y, hy⟩ := exists_value_layout singleLayout negative hdigits hbelow habove
          exact ⟨_, y, rfl, isGrammatical_layout singleLayout negative hpos, hy⟩
  · cases h

end LensCalibration.Decimal
