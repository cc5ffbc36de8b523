import DemurrageToken.Spec.Compounding

/-!
Contract: the decay of a value against other values, taxes and periods, and
against exact compound interest.

Owns: the order of the results of `decay_by`, and how far its loop drifts from
the exact rate.

Does not own: for which periods and taxes the functions complete.
-/

namespace DemurrageToken.Properties

open DemurrageToken.Library
open DemurrageToken.Library.Compound
open DemurrageToken.Contract
open DemurrageToken.Spec

variable {value larger lower higher taxLevel : U128} {shorter longer period : U64}

/-! ## Order -/

/-- More minutes or a higher tax never leave more of a value that is no larger,
and what is left is no more than there was. -/
theorem decayBy_ordered (values : value.toNat ≤ larger.toNat)
    (bounded : larger.toNat ≤ fullAmount) (taxes : lower.toNat ≤ higher.toNat)
    (mild : taxRate higher ≤ 10 ^ 11) (periods : shorter.toNat ≤ longer.toNat) :
    ∃ less more, decayBy value higher longer = some less ∧
      decayBy larger lower shorter = some more ∧
      less.toNat ≤ more.toNat ∧ more.toNat ≤ larger.toNat := by
  have lowerMild : taxRate lower ≤ 10 ^ 11 := (taxRate_mono taxes).trans mild
  obtain ⟨less, decayed⟩ :=
    (@decayBy_exists_iff value higher longer (values.trans bounded)).mpr (Or.inr mild)
  obtain ⟨more, decayedLess⟩ :=
    (@decayBy_exists_iff larger lower shorter bounded).mpr (Or.inr lowerMild)
  have factors : decayFactor higher (longer.toNat - 1) ≤ decayFactor lower (shorter.toNat - 1) :=
    decayFactor_le_decayFactor taxes mild (Nat.sub_le_sub_right periods 1)
  refine ⟨less, more, decayed, decayedLess, ?_, decayBy_le decayedLess⟩
  rw [decayBy_value decayed, decayBy_value decayedLess]
  exact Nat.div_le_div_right (Nat.mul_le_mul factors values)

/-- One percent for a quarter of an hour leaves more of everything than two
percent for an hour leaves of half of it. -/
theorem decayBy_ordered_hour :
    ∃ less more,
      decayBy 50000000000000000000000 200000000000000000000000000 60 = some less ∧
      decayBy 100000000000000000000000 100000000000000000000000000 15 = some more ∧
      less.toNat ≤ more.toNat ∧ more.toNat ≤ fullAmount :=
  decayBy_ordered (by decide) (by decide) (by decide) (by decide) (by decide)

/-! ## Drift -/

/-- The exact share of a value that one minute leaves. -/
def keptPerMinute (taxLevel : U128) : ℚ := kept (10 ^ 11) (taxRate taxLevel)

/-- What an exact rate of compound interest leaves of `value`. -/
def keptExactly (taxLevel : U128) (passes : Nat) (value : ℚ) : ℚ :=
  value * keptPerMinute taxLevel ^ passes

/-- The factor after some passes is not below the exact one, and at most one
unit per pass above it. -/
theorem decayFactor_drift (mild : taxRate taxLevel ≤ 10 ^ 11) (passes : Nat) :
    keptExactly taxLevel passes growthResolutionFactor.toNat ≤ decayFactor taxLevel passes ∧
      (decayFactor taxLevel passes : ℚ) ≤
        keptExactly taxLevel passes growthResolutionFactor.toNat + passes := by
  rw [growthResolutionFactor_toNat]
  have positive : 0 < 10 ^ 11 := by decide
  constructor
  · exact mul_kept_pow_le_shrink_iterate positive mild passes
  · exact shrink_iterate_le_mul_kept_pow positive mild passes

/-- Applied to a value, the drift is at most one unit of the resolution per pass. -/
theorem decayFactor_drift_of_value (mild : taxRate taxLevel ≤ 10 ^ 11) (passes : Nat)
    (value : U128) :
    keptExactly taxLevel passes value.toNat ≤
        decayFactor taxLevel passes * value.toNat / growthResolutionFactor.toNat ∧
      (decayFactor taxLevel passes * value.toNat / growthResolutionFactor.toNat : ℚ) ≤
        keptExactly taxLevel passes value.toNat +
          passes / growthResolutionFactor.toNat * value.toNat := by
  have drift := decayFactor_drift mild passes
  have positive : (0 : ℚ) < growthResolutionFactor.toNat := by
    rw [growthResolutionFactor_toNat]
    norm_num
  have nonneg : (0 : ℚ) ≤ value.toNat := Nat.cast_nonneg _
  unfold keptExactly at drift ⊢
  constructor
  · rw [le_div_iff₀ positive]
    calc (value.toNat : ℚ) * keptPerMinute taxLevel ^ passes * growthResolutionFactor.toNat
        = growthResolutionFactor.toNat * keptPerMinute taxLevel ^ passes * value.toNat := by ring
      _ ≤ decayFactor taxLevel passes * value.toNat :=
          mul_le_mul_of_nonneg_right drift.1 nonneg
  · rw [div_le_iff₀ positive]
    calc (decayFactor taxLevel passes : ℚ) * value.toNat
        ≤ (growthResolutionFactor.toNat * keptPerMinute taxLevel ^ passes + passes) *
            value.toNat := mul_le_mul_of_nonneg_right drift.2 nonneg
      _ = (value.toNat * keptPerMinute taxLevel ^ passes +
            passes / growthResolutionFactor.toNat * value.toNat) *
            growthResolutionFactor.toNat := by
          field_simp

/-- What `decay_by` returns, with the last rounding: less than one unit below the
exact compound rate, and above it by the drift of its passes at most. -/
theorem decayBy_drift {result : U128} (mild : taxRate taxLevel ≤ 10 ^ 11)
    (decayed : decayBy value taxLevel period = some result) :
    keptExactly taxLevel (period.toNat - 1) value.toNat < result.toNat + 1 ∧
      (result.toNat : ℚ) ≤ keptExactly taxLevel (period.toNat - 1) value.toNat +
        (period.toNat - 1 : Nat) / growthResolutionFactor.toNat * value.toNat := by
  have drift := decayFactor_drift_of_value mild (period.toNat - 1) value
  rw [growthResolutionFactor_toNat] at drift ⊢
  rw [decayBy_value decayed]
  have exactProduct : ((decayFactor taxLevel (period.toNat - 1) * value.toNat : Nat) : ℚ) =
      decayFactor taxLevel (period.toNat - 1) * value.toNat := Nat.cast_mul _ _
  rw [← exactProduct] at drift
  have rounded := Nat.lt_floor_add_one
    (((decayFactor taxLevel (period.toNat - 1) * value.toNat : Nat) : ℚ) / (10 ^ 11 : Nat))
  rw [Nat.floor_div_eq_div] at rounded
  constructor
  · exact drift.1.trans_lt rounded
  · exact Nat.cast_div_le.trans drift.2

/-- However often the loop of `decay_by` passes, it completes with a factor of
at least the exact compound rate and at most one unit per pass above it; and what
`decay_by` then returns is off by that drift and its last rounding at most. -/
theorem decayLoop_drift (mild : taxRate taxLevel ≤ 10 ^ 11) (passes : Nat) :
    ∃ factor, Checked.iterate (decayPass (taxLevel / nanoDivder)) passes
        growthResolutionFactor = some factor ∧
      keptExactly taxLevel passes growthResolutionFactor.toNat ≤ factor.toNat ∧
      (factor.toNat : ℚ) ≤ keptExactly taxLevel passes growthResolutionFactor.toNat + passes ∧
      ∀ value : U128,
        keptExactly taxLevel passes value.toNat ≤
          factor.toNat * value.toNat / growthResolutionFactor.toNat ∧
        (factor.toNat * value.toNat / growthResolutionFactor.toNat : ℚ) ≤
          keptExactly taxLevel passes value.toNat +
            passes / growthResolutionFactor.toNat * value.toNat ∧
        ∀ (period : U64) (result : U128), period.toNat - 1 = passes →
          decayBy value taxLevel period = some result →
          keptExactly taxLevel passes value.toNat < result.toNat + 1 ∧
          (result.toNat : ℚ) ≤ keptExactly taxLevel passes value.toNat +
            passes / growthResolutionFactor.toNat * value.toNat := by
  rcases decayLoop_exists mild passes with ⟨factor, loop⟩
  refine ⟨factor, loop, ?_⟩
  rw [decayLoop_value loop]
  have drift := decayFactor_drift mild passes
  refine ⟨drift.1, drift.2, ?_⟩
  intro value
  have driftOfValue := decayFactor_drift_of_value mild passes value
  refine ⟨driftOfValue.1, driftOfValue.2, ?_⟩
  intro period result count decayed
  rw [← count]
  exact decayBy_drift mild decayed

/-- A month at one percent per minute drifts by less than one part in a million,
and so does what is left of the full modifier. -/
theorem decayLoop_drift_month :
    ∃ factor result, Checked.iterate (decayPass (100000000000000000000000000 / nanoDivder)) 43200
        growthResolutionFactor = some factor ∧
      keptExactly 100000000000000000000000000 43200 growthResolutionFactor.toNat ≤
        factor.toNat ∧
      (factor.toNat : ℚ) ≤
        keptExactly 100000000000000000000000000 43200 growthResolutionFactor.toNat + 43200 ∧
      decayBy 100000000000000000000000 100000000000000000000000000 43201 = some result ∧
      keptExactly 100000000000000000000000000 43200
        (100000000000000000000000 : U128).toNat < result.toNat + 1 := by
  obtain ⟨factor, loop, least, most, applied⟩ :=
    @decayLoop_drift 100000000000000000000000000 (by decide) 43200
  obtain ⟨result, decayed⟩ :=
    (@decayBy_exists_iff 100000000000000000000000 100000000000000000000000000 43201
      (by decide)).mpr (Or.inr (by decide))
  refine ⟨factor, result, loop, least, ?_, decayed, ?_⟩
  · exact_mod_cast most
  · exact ((applied _).2.2 43201 result rfl decayed).1

end DemurrageToken.Properties
