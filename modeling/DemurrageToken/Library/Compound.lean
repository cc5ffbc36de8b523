import Mathlib

/-!
Contract: compounding with truncation, over the natural numbers.

A pass takes the share `rate / scale` of a value, rounded down, off the value
or adds it. This is compound interest on a fixed-point number; every pass loses
less than one unit against the exact rational.

Owns: the two passes, what repeating them does to a value, how a pass down
orders values and rates, how far it drifts from the exact rational, and when a
show of the factor is visible after the factor is applied to an amount.

Does not own: machine words, and any particular scale or rate.
-/

namespace DemurrageToken.Library.Compound

/-- One pass down. -/
def shrink (scale rate value : Nat) : Nat := value - value * rate / scale

/-- One pass up. -/
def growth (scale rate value : Nat) : Nat := value + value * rate / scale

variable {scale rate value : Nat}

/-! ## One pass -/

/-- A share of at most one is at most the value. -/
theorem share_le (bounded : rate ≤ scale) : value * rate / scale ≤ value := by
  apply Nat.div_le_of_le_mul
  rw [Nat.mul_comm scale]
  exact Nat.mul_le_mul_left value bounded

theorem shrink_le : shrink scale rate value ≤ value := Nat.sub_le _ _

theorem le_growth : value ≤ growth scale rate value := Nat.le_add_right _ _

/-- A share of less than one leaves something. -/
theorem shrink_pos (below : rate < scale) (positive : 0 < value) :
    0 < shrink scale rate value := by
  apply Nat.sub_pos_of_lt
  rw [Nat.div_lt_iff_lt_mul (Nat.zero_lt_of_lt below)]
  exact Nat.mul_lt_mul_of_pos_left below positive

/-! ## Many passes -/

theorem shrink_iterate_antitone :
    Antitone fun passes => (shrink scale rate)^[passes] value := by
  apply antitone_nat_of_succ_le
  intro passes
  rw [Function.iterate_succ_apply']
  exact shrink_le

theorem shrink_iterate_le (passes : Nat) : (shrink scale rate)^[passes] value ≤ value :=
  shrink_iterate_antitone (Nat.zero_le passes)

theorem shrink_iterate_pos (below : rate < scale) (positive : 0 < value) (passes : Nat) :
    0 < (shrink scale rate)^[passes] value := by
  induction passes with
  | zero => exact positive
  | succ passes inductionHypothesis =>
      rw [Function.iterate_succ_apply']
      exact shrink_pos below inductionHypothesis

theorem growth_iterate_monotone :
    Monotone fun passes => (growth scale rate)^[passes] value := by
  apply monotone_nat_of_le_succ
  intro passes
  rw [Function.iterate_succ_apply']
  exact le_growth

/-! ## Order -/

/-- A pass down multiplies by what it leaves and rounds up. -/
theorem shrink_le_iff {bound : Nat} (positive : 0 < scale) (bounded : rate ≤ scale) :
    shrink scale rate value ≤ bound ↔ value * (scale - rate) ≤ scale * bound := by
  have share := @Nat.le_div_iff_mul_le scale (value - bound) (value * rate) positive
  have nonneg := Nat.zero_le (value * rate / scale)
  have taken : value * rate ≤ value * scale := Nat.mul_le_mul_left value bounded
  have rest : (value - bound) * scale = value * scale - scale * bound := by
    rw [Nat.sub_mul, Nat.mul_comm bound]
  rw [Nat.mul_sub, shrink]
  rw [rest] at share
  constructor
  · intro below
    have covered := share.mp (by omega)
    omega
  · intro below
    have covered := share.mpr (by omega)
    omega

/-- What a pass down leaves of a value, at least. -/
theorem mul_le_scale_shrink (positive : 0 < scale) (bounded : rate ≤ scale) :
    value * (scale - rate) ≤ scale * shrink scale rate value :=
  (shrink_le_iff positive bounded).mp le_rfl

theorem shrink_monotone (positive : 0 < scale) (bounded : rate ≤ scale) :
    Monotone (shrink scale rate) := by
  intro value larger ordered
  apply (shrink_le_iff positive bounded).mpr
  calc value * (scale - rate)
      ≤ larger * (scale - rate) := Nat.mul_le_mul_right _ ordered
    _ ≤ scale * shrink scale rate larger := mul_le_scale_shrink positive bounded

/-- A higher rate leaves less. -/
theorem shrink_antitone_rate {higher : Nat} (positive : 0 < scale) (ordered : rate ≤ higher)
    (bounded : higher ≤ scale) : shrink scale higher ≤ shrink scale rate := by
  intro value
  apply (shrink_le_iff positive bounded).mpr
  calc value * (scale - higher)
      ≤ value * (scale - rate) := Nat.mul_le_mul_left _ (Nat.sub_le_sub_left ordered scale)
    _ ≤ scale * shrink scale rate value := mul_le_scale_shrink positive (ordered.trans bounded)

/-- More passes at a higher rate from a smaller value leave less. -/
theorem shrink_iterate_le_iterate {higher larger passes more : Nat} (positive : 0 < scale)
    (rates : rate ≤ higher) (bounded : higher ≤ scale) (values : value ≤ larger)
    (longer : passes ≤ more) :
    (shrink scale higher)^[more] value ≤ (shrink scale rate)^[passes] larger := by
  have slower := shrink_antitone_rate positive rates bounded
  have monotone := shrink_monotone positive bounded
  calc (shrink scale higher)^[more] value
      ≤ (shrink scale higher)^[passes] value := shrink_iterate_antitone longer
    _ ≤ (shrink scale higher)^[passes] larger := monotone.iterate passes values
    _ ≤ (shrink scale rate)^[passes] larger := monotone.iterate_le_of_le slower passes larger

/-! ## Drift -/

/-- The exact share that a pass down keeps. -/
def kept (scale rate : Nat) : ℚ := 1 - rate / scale

theorem kept_nonneg (positive : 0 < scale) (bounded : rate ≤ scale) : 0 ≤ kept scale rate := by
  have scalePositive : (0 : ℚ) < scale := Nat.cast_pos.mpr positive
  have share : (rate : ℚ) / scale ≤ 1 := (div_le_one scalePositive).mpr (Nat.cast_le.mpr bounded)
  exact sub_nonneg.mpr share

theorem kept_le_one (scale rate : Nat) : kept scale rate ≤ 1 := by
  have share : (0 : ℚ) ≤ rate / scale := by positivity
  exact sub_le_self 1 share

/-- The share kept, in units of the scale. -/
theorem scale_mul_kept (positive : 0 < scale) (bounded : rate ≤ scale) :
    (scale : ℚ) * kept scale rate = ((scale - rate : Nat) : ℚ) := by
  have nonzero : (scale : ℚ) ≠ 0 := Nat.cast_ne_zero.mpr positive.ne'
  rw [kept, Nat.cast_sub bounded]
  field_simp

/-- A pass down leaves no less than the exact share. -/
theorem mul_kept_le_shrink (positive : 0 < scale) (bounded : rate ≤ scale) :
    (value : ℚ) * kept scale rate ≤ shrink scale rate value := by
  have scalePositive : (0 : ℚ) < scale := Nat.cast_pos.mpr positive
  apply le_of_mul_le_mul_left _ scalePositive
  rw [mul_left_comm, scale_mul_kept positive bounded]
  exact_mod_cast mul_le_scale_shrink positive bounded

/-- A pass down leaves at most one unit more than the exact share. -/
theorem shrink_le_mul_kept (positive : 0 < scale) (bounded : rate ≤ scale) :
    (shrink scale rate value : ℚ) ≤ value * kept scale rate + 1 := by
  have scalePositive : (0 : ℚ) < scale := Nat.cast_pos.mpr positive
  have next : scale * shrink scale rate value ≤ value * (scale - rate) + scale := by
    by_contra beyond
    have less : shrink scale rate value ≤ shrink scale rate value - 1 := by
      apply (shrink_le_iff positive bounded).mpr
      rw [Nat.mul_sub scale, Nat.mul_one]
      omega
    have zero : shrink scale rate value = 0 := by omega
    rw [zero] at beyond
    omega
  apply le_of_mul_le_mul_left _ scalePositive
  rw [mul_add, mul_one, mul_left_comm, scale_mul_kept positive bounded]
  exact_mod_cast next

/-- Rounding never takes more than compound interest does. -/
theorem mul_kept_pow_le_shrink_iterate (positive : 0 < scale) (bounded : rate ≤ scale)
    (passes : Nat) :
    (value : ℚ) * kept scale rate ^ passes ≤ ((shrink scale rate)^[passes] value : Nat) := by
  induction passes with
  | zero => simp
  | succ passes inductionHypothesis =>
      rw [Function.iterate_succ_apply', pow_succ, ← mul_assoc]
      calc (value : ℚ) * kept scale rate ^ passes * kept scale rate
          ≤ ((shrink scale rate)^[passes] value : Nat) * kept scale rate :=
            mul_le_mul_of_nonneg_right inductionHypothesis (kept_nonneg positive bounded)
        _ ≤ (shrink scale rate ((shrink scale rate)^[passes] value) : Nat) :=
            mul_kept_le_shrink positive bounded

/-- The rounding of earlier passes is scaled down by the later ones, so each
pass adds at most one unit. -/
theorem shrink_iterate_le_mul_kept_pow (positive : 0 < scale) (bounded : rate ≤ scale)
    (passes : Nat) :
    (((shrink scale rate)^[passes] value : Nat) : ℚ) ≤
      value * kept scale rate ^ passes + passes := by
  induction passes with
  | zero => simp
  | succ passes inductionHypothesis =>
      have nonneg := kept_nonneg positive bounded
      have earlier : (passes : ℚ) * kept scale rate ≤ passes :=
        mul_le_of_le_one_right (Nat.cast_nonneg passes) (kept_le_one scale rate)
      rw [Function.iterate_succ_apply', Nat.cast_succ]
      calc (shrink scale rate ((shrink scale rate)^[passes] value) : ℚ)
          ≤ ((shrink scale rate)^[passes] value : Nat) * kept scale rate + 1 :=
            shrink_le_mul_kept positive bounded
        _ ≤ (value * kept scale rate ^ passes + passes) * kept scale rate + 1 := by
            gcongr
        _ = value * kept scale rate ^ (passes + 1) + passes * kept scale rate + 1 := by ring
        _ ≤ value * kept scale rate ^ (passes + 1) + (passes + 1) := by linarith

/-! ## Visible passes -/

/-- What is taken off the numerator shows in the quotient unless the remainder
covers it. -/
theorem sub_div_eq_iff {taken : Nat} (positive : 0 < scale) (covered : taken ≤ value) :
    (value - taken) / scale = value / scale ↔ taken ≤ value % scale := by
  have split := Nat.div_add_mod value scale
  rw [Nat.div_eq_iff positive, Nat.mul_comm (value / scale) scale]
  constructor
  · intro bounds
    omega
  · intro small
    have remainder := Nat.mod_lt value positive
    omega

/-- What is added to the numerator shows in the quotient unless it fits above
the remainder. -/
theorem add_div_eq_iff {added : Nat} (positive : 0 < scale) :
    (value + added) / scale = value / scale ↔ value % scale + added < scale := by
  have split := Nat.div_add_mod value scale
  rw [Nat.div_eq_iff positive, Nat.mul_comm (value / scale) scale]
  constructor
  · intro bounds
    omega
  · intro small
    omega

/-- One more pass down shows in the scaled product unless rounding hides it. -/
theorem shrink_mul_div_eq_iff {amount : Nat} (positive : 0 < scale) (bounded : rate ≤ scale) :
    shrink scale rate value * amount / scale = value * amount / scale ↔
      value * rate / scale * amount ≤ value * amount % scale := by
  rw [shrink, Nat.sub_mul]
  exact sub_div_eq_iff positive (Nat.mul_le_mul_right amount (share_le bounded))

/-- One more pass up shows in the scaled product unless rounding hides it. -/
theorem growth_mul_div_eq_iff {amount : Nat} (positive : 0 < scale) :
    growth scale rate value * amount / scale = value * amount / scale ↔
      value * amount % scale + value * rate / scale * amount < scale := by
  rw [growth, Nat.add_mul]
  exact add_div_eq_iff positive

end DemurrageToken.Library.Compound
