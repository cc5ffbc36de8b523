import DemurrageToken.Contract.Demurrage

/-!
Contract: the fixed-point arithmetic of the demurrage functions, as equations
between natural numbers.

Owns: the values of the constants; what the period clock, the loops, the base
conversion and the distribution return when they do not abort; and the bounds
that the invariants rest on.

Does not own: the storage effects of the functions that use them.
-/

namespace DemurrageToken.Spec

open DemurrageToken.Library
open DemurrageToken.Contract

/-! ## Constants -/

@[simp] theorem nanoDivder_toNat : nanoDivder.toNat = 10 ^ 17 := rfl

@[simp] theorem growthResolutionFactor_toNat : growthResolutionFactor.toNat = 10 ^ 11 := rfl

@[simp] theorem resolutionFactor_toNat : resolutionFactor.toNat = 10 ^ 28 := rfl

@[simp] theorem amountScale_toNat : amountScale.toNat = 10 ^ 5 := rfl

/-- The modifier a contract starts with: nothing has decayed yet. -/
def fullAmount : Nat := 10 ^ 23

theorem fullAmount_scaled : fullAmount * 10 ^ 5 = 10 ^ 28 := rfl

/-! ## Time -/

theorem minutesBetween_eq_some {now target : Timestamp} {minutes : U64} :
    minutesBetween now target = some minutes ↔
      target.seconds.toNat ≤ now.seconds.toNat ∧
        (now.seconds.toNat - target.seconds.toNat) / 60 = minutes.toNat := by
  simp only [minutesBetween, Option.bind_eq_bind, Option.bind_eq_some_iff,
    Checked.sub_eq_some, Option.pure_def, Option.some.injEq]
  have sixty : ∀ seconds : U64, (seconds / 60).toNat = seconds.toNat / 60 := fun _ =>
    BitVec.toNat_udiv
  constructor
  · intro found
    rcases found with ⟨seconds, difference, rfl⟩
    rw [sixty]
    constructor
    · omega
    · rw [← difference, Nat.add_sub_cancel]
  · intro found
    rcases found with ⟨ordered, quotient⟩
    have bound := now.seconds.isLt
    obtain ⟨seconds, difference⟩ :
        ∃ seconds : U64, now.seconds.toNat - target.seconds.toNat = seconds.toNat :=
      Checked.word_exists (by omega)
    refine ⟨seconds, by omega, ?_⟩
    rw [BitVec.toNat_eq, sixty, ← quotient, difference]

theorem getPeriodTimeDelta_eq_some {start stamp : Timestamp} {count minute : U64} :
    getPeriodTimeDelta start count minute = some stamp ↔
      start.nanos.toNat + count.toNat * minute.toNat * 10 ^ 9 = stamp.nanos.toNat := by
  simp only [getPeriodTimeDelta, Option.bind_eq_bind, Option.bind_eq_some_iff,
    Checked.mul_eq_some, Timestamp.plusSeconds_eq_some]
  constructor
  · intro found
    rcases found with ⟨seconds, product, sum⟩
    rw [product]
    exact sum
  · intro equal
    have bound := stamp.nanos.isLt
    obtain ⟨seconds, product⟩ : ∃ seconds : U64, count.toNat * minute.toNat = seconds.toNat :=
      Checked.word_exists (by omega)
    rw [product] at equal
    exact ⟨seconds, product, equal⟩

/-! ## The compounding loops -/

theorem compound_eq_some {pass : U128 → U128 → Option U128} {value taxLevel result : U128}
    {period : U64} :
    compound pass value taxLevel period = some result ↔
      ∃ factor : U128,
        Checked.iterate (pass (taxLevel / nanoDivder)) (period.toNat - 1)
          growthResolutionFactor = some factor ∧
        factor.toNat * value.toNat < 2 ^ 128 ∧
        factor.toNat * value.toNat / 10 ^ 11 = result.toNat := by
  have scale : ∀ product : U128,
      (product / growthResolutionFactor).toNat = product.toNat / 10 ^ 11 := fun _ =>
    BitVec.toNat_udiv
  simp only [compound, Option.bind_eq_bind, Option.bind_eq_some_iff, Checked.mul_eq_some,
    Option.pure_def, Option.some.injEq]
  apply exists_congr
  intro factor
  apply and_congr_right
  intro _
  constructor
  · intro found
    rcases found with ⟨product, exactly, rfl⟩
    rw [scale, exactly]
    exact ⟨product.isLt, rfl⟩
  · intro found
    rcases found with ⟨fits, quotient⟩
    rcases Checked.word_exists fits with ⟨product, exactly⟩
    refine ⟨product, exactly, ?_⟩
    rw [BitVec.toNat_eq, scale, ← exactly, quotient]

/-- A pass of the decay loop never raises the factor: where it would have to
subtract more than there is, it aborts. -/
theorem decayPass_le {tax factor next : U128} (pass : decayPass tax factor = some next) :
    next.toNat ≤ factor.toNat := by
  simp only [decayPass, Option.bind_eq_bind, Option.bind_eq_some_iff,
    Checked.sub_eq_some] at pass
  rcases pass with ⟨product, _, difference⟩
  omega

theorem decayFactor_le {tax factor : U128} {passes : Nat}
    (loop : Checked.iterate (decayPass tax) passes growthResolutionFactor = some factor) :
    factor.toNat ≤ 10 ^ 11 := by
  refine Checked.iterate_invariant (fun factor : U128 => factor.toNat ≤ 10 ^ 11)
    ?_ passes _ factor ?_ loop
  · intro value next bounded pass
    exact (decayPass_le pass).trans bounded
  · exact growthResolutionFactor_toNat.le

/-- `decay_by` never raises its value, whatever the tax level. -/
theorem decayBy_le {value taxLevel result : U128} {period : U64}
    (decayed : decayBy value taxLevel period = some result) :
    result.toNat ≤ value.toNat := by
  rcases compound_eq_some.mp decayed with ⟨factor, loop, _, quotient⟩
  have bounded := decayFactor_le loop
  rw [← quotient]
  apply Nat.div_le_of_le_mul
  exact Nat.mul_le_mul_right _ bounded

/-! ## The base value -/

theorem toBaseAmount_eq_some {value amount base : U128} :
    toBaseAmount value amount = some base ↔
      value.toNat * 10 ^ 28 < 2 ^ 128 ∧ amount.toNat * 10 ^ 5 < 2 ^ 128 ∧
        amount.toNat ≠ 0 ∧
        value.toNat * 10 ^ 28 / (amount.toNat * 10 ^ 5) = base.toNat := by
  simp only [toBaseAmount, Option.bind_eq_bind, Option.bind_eq_some_iff,
    Checked.mul_eq_some, Checked.div_eq_some, resolutionFactor_toNat, amountScale_toNat]
  constructor
  · intro found
    rcases found with ⟨scaled, scaledEq, divisor, divisorEq, nonzero, quotient⟩
    rw [scaledEq, divisorEq]
    refine ⟨scaled.isLt, divisor.isLt, ?_, quotient⟩
    intro zero
    rw [zero] at divisorEq
    omega
  · intro found
    rcases found with ⟨fits, divisorFits, nonzero, quotient⟩
    rcases Checked.word_exists fits with ⟨scaled, scaledEq⟩
    rcases Checked.word_exists divisorFits with ⟨divisor, divisorEq⟩
    rw [scaledEq, divisorEq] at quotient
    exact ⟨scaled, scaledEq, divisor, divisorEq, by omega, quotient⟩

/-- The base value is the value over the modifier, rounded down. -/
theorem toBaseAmount_value {value amount base : U128}
    (converted : toBaseAmount value amount = some base) :
    0 < amount.toNat ∧ base.toNat = value.toNat * fullAmount / amount.toNat := by
  rcases toBaseAmount_eq_some.mp converted with ⟨_, _, nonzero, quotient⟩
  refine ⟨Nat.pos_of_ne_zero nonzero, ?_⟩
  rw [← quotient, ← fullAmount_scaled, ← Nat.mul_assoc]
  exact Nat.mul_div_mul_right _ _ (by decide)

/-- Below the full modifier a conversion never loses value. -/
theorem le_toBaseAmount {value amount base : U128}
    (converted : toBaseAmount value amount = some base)
    (bounded : amount.toNat ≤ fullAmount) : value.toNat ≤ base.toNat := by
  rcases toBaseAmount_value converted with ⟨positive, quotient⟩
  rw [quotient, Nat.le_div_iff_mul_le positive]
  exact Nat.mul_le_mul_left _ bounded

/-- The conversion is exact as long as the decay costs the value less than one
unit. -/
theorem toBaseAmount_eq_self_iff {value amount base : U128}
    (converted : toBaseAmount value amount = some base)
    (bounded : amount.toNat ≤ fullAmount) :
    base.toNat = value.toNat ↔
      value.toNat * (fullAmount - amount.toNat) < amount.toNat := by
  rcases toBaseAmount_value converted with ⟨positive, quotient⟩
  have lower := le_toBaseAmount converted bounded
  have split : value.toNat * fullAmount =
      value.toNat * (fullAmount - amount.toNat) + value.toNat * amount.toNat := by
    rw [← Nat.mul_add, Nat.sub_add_cancel bounded]
  have below : base.toNat < value.toNat + 1 ↔
      value.toNat * (fullAmount - amount.toNat) < amount.toNat := by
    rw [quotient, Nat.div_lt_iff_lt_mul positive, split, Nat.add_mul]
    omega
  rw [← below]
  omega

/-! ## The distribution -/

/-- The tax in the scale of the code and in that of the modifier. -/
theorem distribution_rescaled (supply amount : Nat) :
    supply * (10 ^ 28 - amount * 10 ^ 5) / 10 ^ 28 =
      supply * (fullAmount - amount) / fullAmount := by
  rw [← fullAmount_scaled, ← Nat.sub_mul, ← Nat.mul_assoc]
  exact Nat.mul_div_mul_right _ _ (by decide)

theorem distributionOf_eq_some {supply amount distribution : U128} :
    distributionOf supply amount = some distribution ↔
      amount.toNat ≤ fullAmount ∧
        supply.toNat * (10 ^ 28 - amount.toNat * 10 ^ 5) < 2 ^ 128 ∧
        distribution.toNat = supply.toNat * (fullAmount - amount.toNat) / fullAmount := by
  have bound := amount.isLt
  have rescaled := distribution_rescaled supply.toNat amount.toNat
  have scale : ∀ product : U128,
      (product / resolutionFactor).toNat = product.toNat / 10 ^ 28 := fun _ =>
    BitVec.toNat_udiv
  simp only [distributionOf, Option.bind_eq_bind, Option.bind_eq_some_iff,
    Checked.mul_eq_some, Checked.sub_eq_some, Option.pure_def, Option.some.injEq,
    resolutionFactor_toNat, amountScale_toNat]
  constructor
  · intro found
    rcases found with ⟨scaled, scaledEq, untaxed, untaxedEq, difference, differenceEq, rfl⟩
    have untaxedValue : untaxed.toNat = 10 ^ 28 - amount.toNat * 10 ^ 5 := by omega
    rw [scale, ← differenceEq, untaxedValue, rescaled]
    refine ⟨?_, ?_, rfl⟩
    · unfold fullAmount
      omega
    · rw [← untaxedValue, differenceEq]
      exact difference.isLt
  · intro found
    rcases found with ⟨bounded, fits, quotient⟩
    unfold fullAmount at bounded
    obtain ⟨scaled, scaledEq⟩ : ∃ scaled : U128, amount.toNat * 10 ^ 5 = scaled.toNat :=
      Checked.word_exists (by omega)
    obtain ⟨untaxed, untaxedEq⟩ :
        ∃ untaxed : U128, 10 ^ 28 - amount.toNat * 10 ^ 5 = untaxed.toNat :=
      Checked.word_exists (by omega)
    rcases Checked.word_exists fits with ⟨difference, differenceEq⟩
    refine ⟨scaled, scaledEq, untaxed, by omega, difference, ?_, ?_⟩
    · rw [← untaxedEq]
      exact differenceEq
    · rw [BitVec.toNat_eq, scale, ← differenceEq, rescaled, quotient]

/-- Nothing is distributed until the tax on the whole supply reaches a unit. -/
theorem distribution_eq_zero_iff {supply amount : Nat} :
    supply * (fullAmount - amount) / fullAmount = 0 ↔
      supply * (fullAmount - amount) < fullAmount := by
  rw [Nat.div_eq_zero_iff]
  unfold fullAmount
  omega

end DemurrageToken.Spec
