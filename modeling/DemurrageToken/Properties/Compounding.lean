import DemurrageToken.Contract.Replay
import DemurrageToken.Spec.Compounding

/-!
Contract: the compounding loops for one period.

Owns: which tax levels, modifiers and periods the two loops complete for, and
for which values a period of `n` minutes is taxed `n` times.

Does not own: the modifier along a run.
-/

namespace DemurrageToken.Properties

open DemurrageToken.Library
open DemurrageToken.Library.System
open DemurrageToken.Library.Compound
open DemurrageToken.Contract
open DemurrageToken.Spec

variable {amount value taxLevel : U128} {period : U64}

/-! ## Completion -/

/-- Both loops of `change_period` complete on a modifier. -/
def LoopsComplete (amount taxLevel : U128) (period : U64) : Prop :=
  (∃ decayed, decayBy amount taxLevel period = some decayed) ∧
    ∃ grown, growBy amount taxLevel period = some grown

/-- At most one minute, or a tax of at most everything whose growth over the
period stays below the width, in the last pass and times the modifier. -/
def StaysInWidth (amount taxLevel : U128) (period : U64) : Prop :=
  period.toNat ≤ 1 ∨
    (taxRate taxLevel ≤ 10 ^ 11 ∧
      growFactor taxLevel (period.toNat - 2) * taxRate taxLevel < 2 ^ 128 ∧
      growFactor taxLevel (period.toNat - 1) < 2 ^ 128 ∧
      growFactor taxLevel (period.toNat - 1) * amount.toNat < 2 ^ 128)

/-- The loops complete on a modifier exactly when the tax stays in the width. -/
theorem loopsComplete_iff (bounded : amount.toNat ≤ fullAmount) :
    LoopsComplete amount taxLevel period ↔ StaysInWidth amount taxLevel period := by
  unfold LoopsComplete StaysInWidth
  rw [decayBy_exists_iff bounded, growBy_exists_iff]
  by_cases short : period.toNat ≤ 1
  · have noPass : period.toNat - 1 = 0 := by omega
    have fits : growFactor taxLevel 0 * amount.toNat < 2 ^ 128 := by
      calc growFactor taxLevel 0 * amount.toNat
          ≤ 10 ^ 11 * fullAmount := Nat.mul_le_mul_left _ bounded
        _ < 2 ^ 128 := by decide
    rw [noPass]
    exact iff_of_true ⟨Or.inl short, Or.inl short, fits⟩ (Or.inl short)
  · simp only [short, false_or, and_assoc]

/-- Half of everything in three minutes. -/
theorem loopsComplete_half :
    LoopsComplete 100000000000000000000000 5000000000000000000000000000 3 :=
  (loopsComplete_iff (by decide)).mpr (Or.inr (by decide +kernel))

/-- A tax level of more than everything is stored without question, and two
minutes later every transfer aborts in `decay_by`. -/
theorem taxLevel_blocks_transfers :
    ∃ start events chain,
      (tokenSystem sampleApi (sampleGenesis 1000000 none)).Run start events chain ∧
      events.map Event.label =
        [callAt 30 "alice" (.changeTaxLevel 10000000000100000000000000000)] ∧
      ¬ LoopsComplete 100000000000000000000000 10000000000100000000000000000 2 ∧
      Handler.run (execute sampleApi (blockAt 120) ⟨⟨"alice"⟩⟩ (.transfer "bob" 1000))
        chain.storage = none := by
  obtain ⟨start, events, chain, run, labels, aborted⟩ :=
    exists_run sampleApi (sampleGenesis 1000000 none)
      [callAt 30 "alice" (.changeTaxLevel 10000000000100000000000000000)]
      (fun _ chain =>
        (Handler.run (execute sampleApi (blockAt 120) ⟨⟨"alice"⟩⟩ (.transfer "bob" 1000))
          chain.storage).isNone)
      (by decide +kernel)
  refine ⟨start, events, chain, run, labels, ?_, Option.isNone_iff_eq_none.mp aborted⟩
  intro complete
  rcases complete.1 with ⟨decayed, completed⟩
  have underflow : decayBy 100000000000000000000000 10000000000100000000000000000 2 = none := by
    decide +kernel
  rw [underflow] at completed
  cases completed

/-! ## The number of passes -/

/-- The tax of the last minute on the value is covered by what rounding drops
without it. -/
def DecayHidden (value taxLevel : U128) (period : U64) : Prop :=
  period.toNat = 0 ∨
    decayFactor taxLevel (period.toNat - 1) * taxRate taxLevel / 10 ^ 11 * value.toNat ≤
      decayFactor taxLevel (period.toNat - 1) * value.toNat % 10 ^ 11

/-- The growth of the last minute on the value stays below the next unit. -/
def GrowthHidden (value taxLevel : U128) (period : U64) : Prop :=
  period.toNat = 0 ∨
    growFactor taxLevel (period.toNat - 1) * value.toNat % 10 ^ 11 +
      growFactor taxLevel (period.toNat - 1) * taxRate taxLevel / 10 ^ 11 * value.toNat < 10 ^ 11

/-- What `decay_by` returns is the value after one pass per minute exactly when
rounding hides the last of them, and so for `grow_by`. -/
theorem taxed_each_minute_iff (bounded : taxRate taxLevel ≤ 10 ^ 11) :
    (∀ result, decayBy value taxLevel period = some result →
      (result.toNat = decayFactor taxLevel period.toNat * value.toNat / 10 ^ 11 ↔
        DecayHidden value taxLevel period)) ∧
    ∀ result, growBy value taxLevel period = some result →
      (result.toNat = growFactor taxLevel period.toNat * value.toNat / 10 ^ 11 ↔
        GrowthHidden value taxLevel period) := by
  unfold DecayHidden GrowthHidden
  constructor
  · intro result decayed
    rw [decayBy_value decayed]
    cases minutes : period.toNat with
    | zero => exact iff_of_true rfl (Or.inl rfl)
    | succ passes =>
        have lastPass : decayFactor taxLevel (passes + 1) =
            shrink (10 ^ 11) (taxRate taxLevel) (decayFactor taxLevel passes) :=
          Function.iterate_succ_apply' _ _ _
        simp only [Nat.add_sub_cancel, Nat.succ_ne_zero, false_or]
        rw [lastPass, eq_comm, shrink_mul_div_eq_iff (by decide) bounded]
  · intro result grown
    rw [growBy_value grown]
    cases minutes : period.toNat with
    | zero => exact iff_of_true rfl (Or.inl rfl)
    | succ passes =>
        have lastPass : growFactor taxLevel (passes + 1) =
            growth (10 ^ 11) (taxRate taxLevel) (growFactor taxLevel passes) :=
          Function.iterate_succ_apply' _ _ _
        simp only [Nat.add_sub_cancel, Nat.succ_ne_zero, false_or]
        rw [lastPass, eq_comm, growth_mul_div_eq_iff (by decide)]

/-- The least tax level is worth one unit in the first minute and nothing in the
later ones, so that three minutes are taxed three times. -/
theorem taxed_three_minutes :
    ∃ result, decayBy 100000000000000000000000 100000000000000000 3 = some result ∧
      result.toNat = decayFactor 100000000000000000 3 * fullAmount / 10 ^ 11 := by
  have completed : decayBy 100000000000000000000000 100000000000000000 3 =
      some 99999999999000000000000 := by decide +kernel
  refine ⟨_, completed, ?_⟩
  exact ((taxed_each_minute_iff (by decide)).1 _ completed).mpr (Or.inr (by decide +kernel))

/-- One minute at one percent is not taxed at all, in neither direction. -/
theorem first_minute_untaxed :
    decayBy 100000000000000000000000 100000000000000000000000000 1 =
        some 100000000000000000000000 ∧
      decayFactor 100000000000000000000000000 1 * fullAmount / 10 ^ 11 =
        99000000000000000000000 ∧
      growBy 100000000000000000000000 100000000000000000000000000 1 =
        some 100000000000000000000000 ∧
      growFactor 100000000000000000000000000 1 * fullAmount / 10 ^ 11 =
        101000000000000000000000 := by
  decide +kernel

end DemurrageToken.Properties
