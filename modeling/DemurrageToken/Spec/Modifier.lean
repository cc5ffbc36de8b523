import DemurrageToken.Spec.Compounding
import DemurrageToken.Spec.Regions

/-!
Contract: the modifier as a function of the block time.

Owns: the value the stored modifier decays to at a time, when the computation
completes, and the modifier and tax level that a message leaves.

Does not own: which modifiers a run reaches.
-/

namespace DemurrageToken.Spec

open DemurrageToken.Library
open DemurrageToken.Library.Compound
open DemurrageToken.Contract

/-! ## Decay up to a time -/

/-- The whole minutes from the demurrage timestamp to `now`. -/
def elapsedMinutes (now : Timestamp) (current : State) : Nat :=
  (now.seconds.toNat - current.demurrageTimestamp.seconds.toNat) / 60

/-- What the stored modifier decays to at `now`. -/
def decayedValue (now : Timestamp) (current : State) : Nat :=
  decayFactor current.taxLevel (elapsedMinutes now current - 1) *
    current.demurrageAmount.toNat / 10 ^ 11

@[simp] theorem limitRounds_zero (elapsed : U64) : limitRounds elapsed 0 = elapsed := by
  unfold limitRounds
  rw [if_neg]
  intro limited
  exact absurd limited.1 (by decide)

theorem decayedAmount_value {now : Timestamp} {current : State} {amount : U128}
    (decayed : decayedAmount now current 0 = some amount) :
    amount.toNat = decayedValue now current := by
  simp only [decayedAmount, limitRounds_zero, Option.bind_eq_bind,
    Option.bind_eq_some_iff] at decayed
  obtain ⟨elapsed, minutes, decayed⟩ := decayed
  have quotient : elapsedMinutes now current = elapsed.toNat :=
    (minutesBetween_eq_some.mp minutes).2
  unfold decayedValue
  rw [quotient]
  by_cases idle : elapsed = 0
  · rw [if_pos idle] at decayed
    obtain rfl := Option.some.inj decayed
    have unchanged : decayFactor current.taxLevel (elapsed.toNat - 1) = 10 ^ 11 := by
      rw [idle]
      rfl
    rw [unchanged, Nat.mul_div_cancel_left _ (by decide)]
  · rw [if_neg idle] at decayed
    simp only [Option.bind_eq_some_iff] at decayed
    obtain ⟨lowered, fewer, _, _, _, _, same⟩ := decayed
    obtain rfl := Option.some.inj same
    exact decayBy_value fewer

/-- The most minutes demurrage can be applied for; the advance of the timestamp
overflows on more. -/
def minutesLeft (current : State) : Nat :=
  (2 ^ 64 - 1 - current.demurrageTimestamp.nanos.toNat) / (60 * 10 ^ 9)

theorem elapsedMinutes_congr {now : Timestamp} {left right : State}
    (sameClock : left.demurrageTimestamp = right.demurrageTimestamp) :
    elapsedMinutes now left = elapsedMinutes now right := by
  unfold elapsedMinutes
  rw [sameClock]

theorem minutesLeft_congr {left right : State}
    (sameClock : left.demurrageTimestamp = right.demurrageTimestamp) :
    minutesLeft left = minutesLeft right := by
  unfold minutesLeft
  rw [sameClock]

theorem decayedAmount_within {now : Timestamp} {current : State} {amount : U128}
    (decayed : decayedAmount now current 0 = some amount) :
    elapsedMinutes now current ≤ minutesLeft current := by
  simp only [decayedAmount, limitRounds_zero, Option.bind_eq_bind,
    Option.bind_eq_some_iff] at decayed
  obtain ⟨elapsed, minutes, decayed⟩ := decayed
  have quotient : elapsedMinutes now current = elapsed.toNat :=
    (minutesBetween_eq_some.mp minutes).2
  rw [quotient]
  by_cases idle : elapsed = 0
  · rw [idle]
    exact Nat.zero_le _
  · rw [if_neg idle] at decayed
    simp only [Option.bind_eq_some_iff, Checked.mul_eq_some,
      Timestamp.plusSeconds_eq_some] at decayed
    obtain ⟨_, _, advance, product, moved, sum, _⟩ := decayed
    have sixty : (60 : U64).toNat = 60 := rfl
    have bound := moved.nanos.isLt
    rw [sixty] at product
    unfold minutesLeft
    rw [Nat.le_div_iff_mul_le (by decide)]
    omega

/-- With a tax of at most everything, the modifier can be decayed to any later
time that is within reach. -/
theorem decayedAmount_exists {now : Timestamp} {current : State}
    (rate : taxRate current.taxLevel ≤ 10 ^ 11)
    (bounded : current.demurrageAmount.toNat ≤ fullAmount)
    (later : current.demurrageTimestamp.nanos.toNat ≤ now.nanos.toNat)
    (within : elapsedMinutes now current ≤ minutesLeft current) :
    ∃ amount, decayedAmount now current 0 = some amount := by
  have laterSeconds : current.demurrageTimestamp.seconds.toNat ≤ now.seconds.toNat := by
    rw [Timestamp.seconds_toNat, Timestamp.seconds_toNat]
    exact Nat.div_le_div_right later
  have bound := now.nanos.isLt
  have nowSeconds := now.seconds_toNat
  have thenSeconds := current.demurrageTimestamp.seconds_toNat
  obtain ⟨elapsed, quotient⟩ : ∃ elapsed : U64,
      (now.seconds.toNat - current.demurrageTimestamp.seconds.toNat) / 60 = elapsed.toNat :=
    Checked.word_exists (by omega)
  have minutes : getMinutesDelta now current.demurrageTimestamp = some elapsed :=
    minutesBetween_eq_some.mpr ⟨laterSeconds, quotient⟩
  have reach : elapsed.toNat * (60 * 10 ^ 9) ≤
      2 ^ 64 - 1 - current.demurrageTimestamp.nanos.toNat := by
    rw [← quotient]
    exact (Nat.le_div_iff_mul_le (by decide)).mp within
  simp only [decayedAmount, limitRounds_zero, minutes, Option.bind_eq_bind, Option.bind_some]
  by_cases idle : elapsed = 0
  · rw [if_pos idle]
    exact ⟨_, rfl⟩
  · rw [if_neg idle]
    obtain ⟨amount, fewer⟩ : ∃ amount,
        decayBy current.demurrageAmount current.taxLevel elapsed = some amount :=
      (decayBy_exists_iff bounded).mpr (Or.inr rate)
    obtain ⟨advance, product⟩ : ∃ advance : U64, elapsed.toNat * 60 = advance.toNat :=
      Checked.word_exists (by omega)
    obtain ⟨moved, sum⟩ : ∃ moved : U64,
        current.demurrageTimestamp.nanos.toNat + advance.toNat * 10 ^ 9 = moved.toNat :=
      Checked.word_exists (by omega)
    have multiplied : Checked.mul elapsed 60 = some advance := Checked.mul_eq_some.mpr product
    have advanced : current.demurrageTimestamp.plusSeconds advance = some ⟨moved⟩ :=
      Timestamp.plusSeconds_eq_some.mpr sum
    refine ⟨amount, ?_⟩
    rw [fewer, Option.bind_some, multiplied, Option.bind_some, advanced]
    rfl

theorem elapsedMinutes_mono {now later : Timestamp} {current : State}
    (ordered : now.nanos.toNat ≤ later.nanos.toNat) :
    elapsedMinutes now current ≤ elapsedMinutes later current := by
  unfold elapsedMinutes
  rw [Timestamp.seconds_toNat, Timestamp.seconds_toNat, Timestamp.seconds_toNat]
  apply Nat.div_le_div_right
  apply Nat.sub_le_sub_right
  exact Nat.div_le_div_right ordered

theorem decayedValue_pos_iff {now : Timestamp} {current : State} :
    0 < decayedValue now current ↔
      10 ^ 11 ≤ decayFactor current.taxLevel (elapsedMinutes now current - 1) *
        current.demurrageAmount.toNat := by
  unfold decayedValue
  rw [Nat.div_pos_iff]
  constructor
  · intro positive
    exact positive.2
  · intro covered
    exact ⟨by decide, covered⟩

/-- What a second application at the same time leaves of it. -/
def decayedTwice (now : Timestamp) (current : State) : Nat :=
  decayFactor current.taxLevel (elapsedMinutes now current - 1) *
    decayedValue now current / 10 ^ 11

theorem Advances.demurrageAmount_eq {now : Timestamp} {current updated : State}
    (advances : Advances now current updated) :
    updated.demurrageAmount.toNat = decayedValue now current :=
  decayedAmount_value advances.decayed

/-- Demurrage is charged again by the next period change of the same block. -/
theorem Advances.decayedTwice_eq {now : Timestamp} {current middle updated : State}
    (first : Advances now current middle) (second : Advances now middle updated) :
    updated.demurrageAmount.toNat = decayedTwice now current := by
  have sameClock : middle.demurrageTimestamp = current.demurrageTimestamp := by
    rw [first.kept]
  have sameTax : middle.taxLevel = current.taxLevel := by
    rw [first.kept]
  rw [second.demurrageAmount_eq, decayedValue, first.demurrageAmount_eq, sameTax,
    elapsedMinutes_congr sameClock]
  rfl

/-! ## What a message leaves -/

/-- The tax level a message sets. -/
def taxLevelSet : ExecuteMsg → Option U128
  | .changeTaxLevel amount => some amount
  | _ => none

/-- The tax level after a message. -/
def taxLevelAfter (current : State) (msg : ExecuteMsg) : U128 :=
  (taxLevelSet msg).getD current.taxLevel

/-- The modifier after a message at `now`. -/
def amountAfter (now : Timestamp) (current : State) (msg : ExecuteMsg) : Nat :=
  if changesPeriod msg then decayedValue now current else current.demurrageAmount.toNat

theorem RecordStep.taxLevel_eq {now : Timestamp} {current updated : State} {msg : ExecuteMsg}
    (step : RecordStep now current msg updated) :
    updated.taxLevel = taxLevelAfter current msg := by
  cases step with
  | advance changes advances =>
      rw [advances.kept]
      cases msg with
      | changeTaxLevel _ => cases changes
      | _ => rfl
  | sink => rfl
  | tax => rfl
  | keep _ noPolicy =>
      cases msg with
      | changeTaxLevel _ => cases noPolicy
      | _ => rfl

theorem RecordStep.amount_eq {now : Timestamp} {current updated : State} {msg : ExecuteMsg}
    (step : RecordStep now current msg updated) :
    updated.demurrageAmount.toNat = amountAfter now current msg := by
  unfold amountAfter
  cases step with
  | advance changes advances =>
      rw [if_pos changes]
      exact advances.demurrageAmount_eq
  | sink => rfl
  | tax => rfl
  | keep unchanged _ =>
      rw [unchanged]
      rfl

/-- No message raises the modifier. -/
theorem RecordStep.amount_le {now : Timestamp} {current updated : State} {msg : ExecuteMsg}
    (step : RecordStep now current msg updated) :
    updated.demurrageAmount.toNat ≤ current.demurrageAmount.toNat := by
  cases step with
  | advance _ advances => exact advances.demurrageAmount_le
  | sink => exact le_rfl
  | tax => exact le_rfl
  | keep _ _ => exact le_rfl

end DemurrageToken.Spec
