import DemurrageToken.Library.Compound
import DemurrageToken.Spec.FixedPoint

/-!
Contract: `decay_by` and `grow_by` as compounding over the natural numbers.

Both loops run one pass fewer than the period they are given.

Owns: the factor that each loop reaches, when the loops complete, and what the
two functions return.

Does not own: where the period comes from.
-/

namespace DemurrageToken.Spec

open DemurrageToken.Library
open DemurrageToken.Library.Compound
open DemurrageToken.Contract

/-- The tax level in the resolution of the loops, the share taken per pass in
units of 10^-11. -/
def taxRate (taxLevel : U128) : Nat := taxLevel.toNat / 10 ^ 17

/-- The factor after some passes of the decay loop. -/
def decayFactor (taxLevel : U128) (passes : Nat) : Nat :=
  (shrink (10 ^ 11) (taxRate taxLevel))^[passes] (10 ^ 11)

/-- The factor after some passes of the growth loop. -/
def growFactor (taxLevel : U128) (passes : Nat) : Nat :=
  (growth (10 ^ 11) (taxRate taxLevel))^[passes] (10 ^ 11)

theorem truncatedTaxLevel_toNat (taxLevel : U128) :
    (taxLevel / nanoDivder).toNat = taxRate taxLevel := by
  rw [BitVec.toNat_udiv, nanoDivder_toNat]
  rfl

theorem scaledDown_toNat (product : U128) :
    (product / growthResolutionFactor).toNat = product.toNat / 10 ^ 11 := by
  rw [BitVec.toNat_udiv, growthResolutionFactor_toNat]

/-! ## The decay loop -/

theorem decayPass_eq_some {tax factor next : U128} :
    decayPass tax factor = some next ↔
      factor.toNat * tax.toNat < 2 ^ 128 ∧
        factor.toNat * tax.toNat / 10 ^ 11 ≤ factor.toNat ∧
        next.toNat = shrink (10 ^ 11) tax.toNat factor.toNat := by
  simp only [decayPass, Option.bind_eq_bind, Option.bind_eq_some_iff, Checked.mul_eq_some,
    Checked.sub_eq_some, scaledDown_toNat, shrink]
  constructor
  · intro found
    rcases found with ⟨product, exactly, difference⟩
    rw [exactly]
    exact ⟨product.isLt, by omega, by omega⟩
  · intro found
    rcases found with ⟨fits, covered, value⟩
    rcases Checked.word_exists fits with ⟨product, exactly⟩
    rw [exactly] at covered value
    exact ⟨product, exactly, by omega⟩

theorem decayLoop_value {taxLevel factor : U128} {passes : Nat}
    (loop : Checked.iterate (decayPass (taxLevel / nanoDivder)) passes growthResolutionFactor =
      some factor) :
    factor.toNat = decayFactor taxLevel passes := by
  have simulated := @Checked.iterate_simulates _ _ _ BitVec.toNat
    (shrink (10 ^ 11) (taxRate taxLevel)) ?_ passes _ factor loop
  · exact simulated
  · intro value next pass
    rw [(decayPass_eq_some.mp pass).2.2, truncatedTaxLevel_toNat]

/-- A tax of at most everything never underflows the loop. -/
theorem decayLoop_exists {taxLevel : U128} (bounded : taxRate taxLevel ≤ 10 ^ 11)
    (passes : Nat) :
    ∃ factor, Checked.iterate (decayPass (taxLevel / nanoDivder)) passes
      growthResolutionFactor = some factor := by
  refine Checked.iterate_exists (fun factor : U128 => factor.toNat ≤ 10 ^ 11) ?_ passes _ ?_
  · intro factor within
    have fits : factor.toNat * taxRate taxLevel < 2 ^ 128 := by
      calc factor.toNat * taxRate taxLevel
          ≤ 10 ^ 11 * 10 ^ 11 := Nat.mul_le_mul within bounded
        _ < 2 ^ 128 := by decide
    have small : shrink (10 ^ 11) (taxRate taxLevel) factor.toNat ≤ 10 ^ 11 :=
      shrink_le.trans within
    rcases @Checked.word_exists 128 _ (small.trans_lt (by decide)) with ⟨next, value⟩
    refine ⟨next, decayPass_eq_some.mpr ?_, value ▸ small⟩
    rw [truncatedTaxLevel_toNat]
    exact ⟨fits, share_le bounded, value.symm⟩
  · exact growthResolutionFactor_toNat.le

/-- A tax of more than everything underflows in the first pass. -/
theorem decayLoop_exists_iff {taxLevel : U128} {passes : Nat} :
    (∃ factor, Checked.iterate (decayPass (taxLevel / nanoDivder)) passes
      growthResolutionFactor = some factor) ↔ passes = 0 ∨ taxRate taxLevel ≤ 10 ^ 11 := by
  constructor
  · intro found
    rcases found with ⟨factor, loop⟩
    cases passes with
    | zero => exact Or.inl rfl
    | succ passes =>
        rcases Checked.iterate_succ_eq_some.mp loop with ⟨next, first, _⟩
        have covered := (decayPass_eq_some.mp first).2.1
        rw [truncatedTaxLevel_toNat, growthResolutionFactor_toNat,
          Nat.mul_div_cancel_left _ (by decide)] at covered
        exact Or.inr covered
  · intro either
    rcases either with none | bounded
    · rw [none]
      exact ⟨growthResolutionFactor, rfl⟩
    · exact decayLoop_exists bounded passes

theorem decayFactor_le_one (taxLevel : U128) (passes : Nat) :
    decayFactor taxLevel passes ≤ 10 ^ 11 :=
  shrink_iterate_le passes

theorem taxRate_mono {lower higher : U128} (ordered : lower.toNat ≤ higher.toNat) :
    taxRate lower ≤ taxRate higher :=
  Nat.div_le_div_right ordered

/-- More passes at a higher tax leave a smaller factor. -/
theorem decayFactor_le_decayFactor {lower higher : U128} {passes more : Nat}
    (taxes : lower.toNat ≤ higher.toNat) (bounded : taxRate higher ≤ 10 ^ 11)
    (longer : passes ≤ more) : decayFactor higher more ≤ decayFactor lower passes :=
  shrink_iterate_le_iterate (by decide) (taxRate_mono taxes) bounded le_rfl longer

/-- A tax of less than everything leaves at least one unit of the factor. -/
theorem le_decayFactor_mul {taxLevel : U128} {amount : Nat} (mild : taxRate taxLevel < 10 ^ 11)
    (passes : Nat) : amount ≤ decayFactor taxLevel passes * amount := by
  apply Nat.le_mul_of_pos_left
  exact shrink_iterate_pos mild (by decide) passes

/-- `decay_by` returns the amount times the factor, rounded down. -/
theorem decayBy_value {value taxLevel result : U128} {period : U64}
    (decayed : decayBy value taxLevel period = some result) :
    result.toNat = decayFactor taxLevel (period.toNat - 1) * value.toNat / 10 ^ 11 := by
  rcases compound_eq_some.mp decayed with ⟨factor, loop, _, quotient⟩
  rw [← quotient, decayLoop_value loop]

/-- `decay_by` completes on a modifier as long as the tax takes no more than
everything; for one minute the tax is not looked at. -/
theorem decayBy_exists_iff {value taxLevel : U128} {period : U64}
    (bounded : value.toNat ≤ fullAmount) :
    (∃ result, decayBy value taxLevel period = some result) ↔
      period.toNat ≤ 1 ∨ taxRate taxLevel ≤ 10 ^ 11 := by
  have fewPasses : period.toNat - 1 = 0 ↔ period.toNat ≤ 1 := by omega
  rw [← fewPasses, ← decayLoop_exists_iff]
  constructor
  · intro found
    rcases found with ⟨result, decayed⟩
    rcases compound_eq_some.mp decayed with ⟨factor, loop, _, _⟩
    exact ⟨factor, loop⟩
  · intro found
    rcases found with ⟨factor, loop⟩
    have fits : factor.toNat * value.toNat < 2 ^ 128 := by
      rw [decayLoop_value loop]
      calc decayFactor taxLevel (period.toNat - 1) * value.toNat
          ≤ 10 ^ 11 * fullAmount := Nat.mul_le_mul (decayFactor_le_one _ _) bounded
        _ < 2 ^ 128 := by decide
    obtain ⟨result, quotient⟩ :=
      @Checked.word_exists 128 _ ((Nat.div_le_self (factor.toNat * value.toNat) _).trans_lt fits)
    exact ⟨result, compound_eq_some.mpr ⟨factor, loop, fits, quotient⟩⟩

/-! ## The growth loop -/

theorem growPass_eq_some {tax factor next : U128} :
    growPass tax factor = some next ↔
      factor.toNat * tax.toNat < 2 ^ 128 ∧
        growth (10 ^ 11) tax.toNat factor.toNat = next.toNat := by
  simp only [growPass, Option.bind_eq_bind, Option.bind_eq_some_iff, Checked.mul_eq_some,
    Checked.add_eq_some, scaledDown_toNat, growth]
  constructor
  · intro found
    rcases found with ⟨product, exactly, sum⟩
    rw [exactly]
    exact ⟨product.isLt, sum⟩
  · intro found
    rcases found with ⟨fits, sum⟩
    rcases Checked.word_exists fits with ⟨product, exactly⟩
    rw [exactly] at sum
    exact ⟨product, exactly, sum⟩

theorem growLoop_value {taxLevel factor : U128} {passes : Nat}
    (loop : Checked.iterate (growPass (taxLevel / nanoDivder)) passes growthResolutionFactor =
      some factor) :
    factor.toNat = growFactor taxLevel passes := by
  have simulated := @Checked.iterate_simulates _ _ _ BitVec.toNat
    (growth (10 ^ 11) (taxRate taxLevel)) ?_ passes _ factor loop
  · exact simulated
  · intro value next pass
    rw [← (growPass_eq_some.mp pass).2, truncatedTaxLevel_toNat]

/-- The factor only grows, so the loop completes as soon as its last pass does. -/
theorem growLoop_exists_iff {taxLevel : U128} {passes : Nat} :
    (∃ factor, Checked.iterate (growPass (taxLevel / nanoDivder)) passes
      growthResolutionFactor = some factor) ↔
      passes = 0 ∨ (growFactor taxLevel (passes - 1) * taxRate taxLevel < 2 ^ 128 ∧
        growFactor taxLevel passes < 2 ^ 128) := by
  induction passes with
  | zero => exact iff_of_true ⟨growthResolutionFactor, rfl⟩ (Or.inl rfl)
  | succ passes inductionHypothesis =>
      simp only [Checked.iterate_succ_eq_some', Nat.add_sub_cancel, Nat.succ_ne_zero, false_or]
      have lastPass : growFactor taxLevel (passes + 1) =
          growth (10 ^ 11) (taxRate taxLevel) (growFactor taxLevel passes) :=
        Function.iterate_succ_apply' _ _ _
      constructor
      · intro found
        rcases found with ⟨factor, earlier, loop, last⟩
        rcases growPass_eq_some.mp last with ⟨fits, sum⟩
        rw [growLoop_value loop, truncatedTaxLevel_toNat] at fits sum
        rw [lastPass, sum]
        exact ⟨fits, factor.isLt⟩
      · intro found
        rcases found with ⟨fits, next⟩
        have reached : growFactor taxLevel passes < 2 ^ 128 :=
          (growth_iterate_monotone (Nat.le_succ passes)).trans_lt next
        have before : growFactor taxLevel (passes - 1) * taxRate taxLevel < 2 ^ 128 :=
          (Nat.mul_le_mul_right _ (growth_iterate_monotone (Nat.pred_le passes))).trans_lt fits
        rcases inductionHypothesis.mpr (Or.inr ⟨before, reached⟩) with ⟨earlier, loop⟩
        rcases Checked.word_exists next with ⟨factor, value⟩
        refine ⟨factor, earlier, loop, growPass_eq_some.mpr ?_⟩
        rw [growLoop_value loop, truncatedTaxLevel_toNat, ← lastPass]
        exact ⟨fits, value⟩

/-- `grow_by` returns the amount times the factor, rounded down. -/
theorem growBy_value {value taxLevel result : U128} {period : U64}
    (grown : growBy value taxLevel period = some result) :
    result.toNat = growFactor taxLevel (period.toNat - 1) * value.toNat / 10 ^ 11 := by
  rcases compound_eq_some.mp grown with ⟨factor, loop, _, quotient⟩
  rw [← quotient, growLoop_value loop]

/-- `grow_by` completes if its loop does and the grown amount fits. -/
theorem growBy_exists_iff {value taxLevel : U128} {period : U64} :
    (∃ result, growBy value taxLevel period = some result) ↔
      (period.toNat ≤ 1 ∨ (growFactor taxLevel (period.toNat - 2) * taxRate taxLevel < 2 ^ 128 ∧
        growFactor taxLevel (period.toNat - 1) < 2 ^ 128)) ∧
      growFactor taxLevel (period.toNat - 1) * value.toNat < 2 ^ 128 := by
  have fewPasses : period.toNat - 1 = 0 ↔ period.toNat ≤ 1 := by omega
  have twoFewer : period.toNat - 1 - 1 = period.toNat - 2 := by omega
  rw [← fewPasses, ← twoFewer, ← growLoop_exists_iff]
  constructor
  · intro found
    rcases found with ⟨result, grown⟩
    rcases compound_eq_some.mp grown with ⟨factor, loop, fits, _⟩
    rw [growLoop_value loop] at fits
    exact ⟨⟨factor, loop⟩, fits⟩
  · intro found
    rcases found with ⟨⟨factor, loop⟩, fits⟩
    rw [← growLoop_value loop] at fits
    obtain ⟨result, quotient⟩ :=
      @Checked.word_exists 128 _ ((Nat.div_le_self (factor.toNat * value.toNat) _).trans_lt fits)
    exact ⟨result, compound_eq_some.mpr ⟨factor, loop, fits, quotient⟩⟩

end DemurrageToken.Spec
