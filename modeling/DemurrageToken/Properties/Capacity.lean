import DemurrageToken.Contract.Replay
import DemurrageToken.Spec.Funds
import DemurrageToken.Spec.Invariants
import DemurrageToken.Spec.Modifier

/-!
Contract: the amounts and supplies that the arithmetic has room for.

Owns: which supplies the distribution can be computed for, and which amounts
can be converted to a base value.

Does not own: whether the modifier can be divided by at all.
-/

namespace DemurrageToken.Properties

open DemurrageToken.Library
open DemurrageToken.Library.System
open DemurrageToken.Library.Handler
open DemurrageToken.Library.Ledger
open DemurrageToken.Contract
open DemurrageToken.Spec

variable {api : Api} {genesis : Genesis} {chain : Chain}

/-- The most that the scale of the code has room for. -/
def maxConvertible : Nat := (2 ^ 128 - 1) / 10 ^ 28

/-! ## The distribution -/

/-- `get_distribution` returns the tax on the stored supply, rounded down. -/
def TaxComputed (storage : Storage) (updated : State) : Prop :=
  ∃ info distribution, storage.tokenInfo = some info ∧
    Returns (getDistribution updated) storage distribution storage ∧
    distribution.toNat =
      info.totalSupply.toNat * (10 ^ 28 - updated.demurrageAmount.toNat * 10 ^ 5) / 10 ^ 28

/-- What a message adds to the supply before the period changes. -/
def minted : ExecuteMsg → Nat
  | .mint _ amount => amount.toNat
  | _ => 0

/-- The distribution is computed exactly when the tax on the supply fits. -/
theorem distributionOf_exists_iff {supply amount : U128} (bounded : amount.toNat ≤ fullAmount) :
    (∃ distribution, distributionOf supply amount = some distribution) ↔
      supply.toNat * (10 ^ 28 - amount.toNat * 10 ^ 5) < 2 ^ 128 := by
  constructor
  · intro found
    obtain ⟨distribution, due⟩ := found
    exact (distributionOf_eq_some.mp due).2.1
  · intro fits
    have below : supply.toNat * (fullAmount - amount.toNat) / fullAmount < 2 ^ 128 := by
      have part : supply.toNat * (fullAmount - amount.toNat) ≤ fullAmount * supply.toNat := by
        rw [Nat.mul_comm fullAmount]
        exact Nat.mul_le_mul_left _ (Nat.sub_le _ _)
      exact (Nat.div_le_of_le_mul part).trans_lt supply.isLt
    obtain ⟨distribution, value⟩ := @Checked.word_exists 128 _ below
    exact ⟨distribution, distributionOf_eq_some.mpr ⟨bounded, fits, value.symm⟩⟩

theorem taxComputed_iff {storage : Storage} {updated : State} {info : TokenInfo}
    (token : storage.tokenInfo = some info)
    (bounded : updated.demurrageAmount.toNat ≤ fullAmount) :
    TaxComputed storage updated ↔
      info.totalSupply.toNat * (10 ^ 28 - updated.demurrageAmount.toNat * 10 ^ 5) < 2 ^ 128 := by
  rw [← distributionOf_exists_iff bounded]
  constructor
  · intro computed
    obtain ⟨_, distribution, _, returned, _⟩ := computed
    obtain ⟨⟨other, present, due⟩, _⟩ := returns_getDistribution.mp returned
    obtain rfl := Option.some.inj (token.symm.trans present)
    exact ⟨distribution, due⟩
  · intro found
    obtain ⟨distribution, due⟩ := found
    refine ⟨info, distribution, token, ?_, ?_⟩
    · exact returns_getDistribution.mpr ⟨⟨info, token, due⟩, rfl⟩
    · rw [distribution_rescaled]
      exact (distributionOf_eq_some.mp due).2.2

/-- The product of the stored supply and the tax on it fits. -/
def ProductFits (storage : Storage) : Prop :=
  ∀ info ∈ storage.tokenInfo, ∀ current ∈ storage.state,
    info.totalSupply.toNat * (10 ^ 28 - current.demurrageAmount.toNat * 10 ^ 5) < 2 ^ 128

/-- A period change leaves what it has computed the distribution with. -/
theorem productFits_of_change {env : Env} {sender : Addr} {before after : Storage}
    {msg : ExecuteMsg} {config : TokenInfo} (effect : Effect api env sender before after msg)
    (token : before.tokenInfo = some config) (changes : changesPeriod msg = true) :
    ProductFits after := by
  obtain ⟨current, updated, info, change⟩ := effect.periodChange token changes
  obtain ⟨funds, redistributes⟩ := change.redistributes
  obtain ⟨distribution, due⟩ := redistributes.due rfl
  intro other saved record savedRecord
  obtain rfl := Option.some.inj (change.token.symm.trans saved)
  obtain rfl := Option.some.inj (change.saved.symm.trans savedRecord)
  exact (distributionOf_eq_some.mp due).2.1

/-- A message that does not change the period leaves the modifier as it was and
the supply no larger. -/
theorem productFits_of_idle {env : Env} {sender : Addr} {before after : Storage}
    {msg : ExecuteMsg} {config : TokenInfo} {current : State}
    (effect : Effect api env sender before after msg) (token : before.tokenInfo = some config)
    (stored : before.state = some current) (idle : changesPeriod msg = false)
    (fits : ProductFits before) : ProductFits after := by
  intro info saved updated savedRecord
  obtain ⟨_, same, recordStep⟩ := effect.record stored
  obtain rfl := Option.some.inj (savedRecord.symm.trans same)
  obtain ⟨_, sameToken, tokenStep⟩ := effect.token token
  obtain rfl := Option.some.inj (saved.symm.trans sameToken)
  rw [recordStep.demurrageAmount_eq idle]
  have supply : info.totalSupply.toNat ≤ config.totalSupply.toNat := by
    cases tokenStep with
    | mint _ _ _ _ => cases idle
    | burn _ burns =>
        obtain ⟨lowered, difference, rfl⟩ := burns
        dsimp only
        omega
    | handOver _ _ _ => exact le_rfl
    | keep => exact le_rfl
  exact (Nat.mul_le_mul_right _ supply).trans_lt (fits config token current stored)

/-- In every reachable state the product of what is stored fits. -/
theorem productFits_of_reachable (reachable : (tokenSystem api genesis).Reachable chain) :
    ProductFits chain.storage := by
  refine reachable.invariant (fun chain => ProductFits chain.storage) ?_ ?_
  · intro start initial info saved current savedRecord
    obtain ⟨_, _, _, _, _, result⟩ := instantiates_of_init initial
    rw [result] at savedRecord
    obtain rfl := Option.some.inj savedRecord
    have untaxed : 10 ^ 28 - (100000000000000000000000 : U128).toNat * 10 ^ 5 = 0 := by decide
    dsimp only
    rw [untaxed, Nat.mul_zero]
    decide
  · intro chain call next earlier fits step
    have wellFormed := wellFormed_of_reachable earlier
    obtain ⟨config, token⟩ := wellFormed.token
    obtain ⟨current, stored, _⟩ := wellFormed.record
    cases changes : changesPeriod call.msg with
    | true => exact productFits_of_change (effect_of_step step) token changes
    | false => exact productFits_of_idle (effect_of_step step) token stored changes fits

/-- A supply within the scale is taxed without overflow, whatever is left of the
modifier. -/
theorem product_fits_of_small {supply : Nat} (amount : Nat) (small : supply ≤ maxConvertible) :
    supply * (10 ^ 28 - amount * 10 ^ 5) < 2 ^ 128 :=
  calc supply * (10 ^ 28 - amount * 10 ^ 5)
      ≤ maxConvertible * 10 ^ 28 := Nat.mul_le_mul small (Nat.sub_le _ _)
    _ < 2 ^ 128 := by decide

/-- In every reachable state the distribution of what is stored is computed; and
`change_period` computes the one of the next message exactly when the supply,
with what the message mints, and the tax on it by then fit the width, as they do
for a supply of at most 34028236692. That is all that can stop it, but for the
sink: `change_period` returns exactly when it also has room for the distribution. -/
theorem distribution_computed_iff (reachable : (tokenSystem api genesis).Reachable chain) :
    ∃ config current, chain.storage.tokenInfo = some config ∧
      chain.storage.state = some current ∧ TaxComputed chain.storage current ∧
      ∀ (call : Call) (supply : U128) (updated : State),
        config.totalSupply.toNat + minted call.msg = supply.toNat →
        Advances call.env.block.time current updated →
        (TaxComputed { chain.storage with
            tokenInfo := some { config with totalSupply := supply } } updated ↔
          (config.totalSupply.toNat + minted call.msg) *
            (10 ^ 28 - decayedValue call.env.block.time current * 10 ^ 5) < 2 ^ 128) ∧
        ((∃ result after, Returns (changePeriod api call.env current) { chain.storage with
            tokenInfo := some { config with totalSupply := supply } } (result, updated) after) ↔
          (config.totalSupply.toNat + minted call.msg) *
            (10 ^ 28 - decayedValue call.env.block.time current * 10 ^ 5) < 2 ^ 128 ∧
          ∀ sink, api.addrValidate current.sinkAddress = .ok sink →
            held chain.storage.balances sink +
              (config.totalSupply.toNat + minted call.msg) *
                (10 ^ 28 - decayedValue call.env.block.time current * 10 ^ 5) / 10 ^ 28 <
              2 ^ 128) ∧
        (config.totalSupply.toNat + minted call.msg ≤ 34028236692 →
          (config.totalSupply.toNat + minted call.msg) *
            (10 ^ 28 - decayedValue call.env.block.time current * 10 ^ 5) < 2 ^ 128) := by
  have wellFormed := wellFormed_of_reachable reachable
  obtain ⟨config, token⟩ := wellFormed.token
  obtain ⟨current, stored, kept⟩ := wellFormed.record
  refine ⟨config, current, token, stored, ?_, ?_⟩
  · apply (taxComputed_iff token kept.bounded).mpr
    exact productFits_of_reachable reachable config token current stored
  · intro call supply updated raised advances
    have bounded := advances.demurrageAmount_le.trans kept.bounded
    have sameSink : updated.sinkAddress = current.sinkAddress := by rw [advances.kept]
    refine ⟨?_, ?_, ?_⟩
    · rw [taxComputed_iff rfl bounded, advances.demurrageAmount_eq, raised]
    · rw [changePeriod_exists_iff rfl advances, raised, ← advances.demurrageAmount_eq, sameSink,
        ← distributionOf_exists_iff bounded]
      constructor
      · intro found
        obtain ⟨distribution, due, room⟩ := found
        rw [distribution_rescaled, ← (distributionOf_eq_some.mp due).2.2]
        exact ⟨⟨distribution, due⟩, room⟩
      · intro found
        obtain ⟨⟨distribution, due⟩, room⟩ := found
        rw [distribution_rescaled, ← (distributionOf_eq_some.mp due).2.2] at room
        exact ⟨distribution, due, room⟩
    · exact product_fits_of_small _

/-- A supply of a million is computed with for two transfers and a burn, and for
a mint of a thousand after that. -/
theorem distribution_computed_transfers :
    ∃ start events chain config current,
      (tokenSystem sampleApi (sampleGenesis 1000000 none)).Run start events chain ∧
      events.map Event.label =
        [callAt 180 "alice" (.transfer "bob" 1000), callAt 200 "bob" (.burn 20),
          callAt 240 "alice" (.transfer "bob" 1000)] ∧
      chain.storage.tokenInfo = some config ∧ chain.storage.state = some current ∧
      TaxComputed chain.storage current ∧
      ∀ updated, Advances (blockAt 300).block.time current updated →
        TaxComputed { chain.storage with
          tokenInfo := some { config with totalSupply := config.totalSupply + 1000 } } updated := by
  obtain ⟨start, events, chain, run, labels, passed⟩ :=
    exists_run sampleApi (sampleGenesis 1000000 none)
      [callAt 180 "alice" (.transfer "bob" 1000), callAt 200 "bob" (.burn 20),
        callAt 240 "alice" (.transfer "bob" 1000)]
      (fun _ chain => decide (∀ info ∈ chain.storage.tokenInfo, info.totalSupply = 999980))
      (by decide +kernel)
  obtain ⟨config, current, token, stored, computed, next⟩ :=
    distribution_computed_iff run.reachable
  refine ⟨start, events, chain, config, current, run, labels, token, stored, computed, ?_⟩
  intro updated advances
  have supply := of_decide_eq_true passed config token
  have raised : config.totalSupply.toNat +
      minted (callAt 300 "bob" (.mint "bob" 1000)).msg = (config.totalSupply + 1000).toNat := by
    rw [supply]
    decide
  obtain ⟨computes, _, small⟩ := next _ _ updated raised advances
  apply computes.mpr
  apply small
  rw [raised, supply]
  decide

/-- A supply of a million tokens of eighteen decimals: three minutes after
instantiation the product overflows, and every transfer aborts. -/
theorem distribution_overflows :
    ∃ start events chain,
      (tokenSystem sampleApi (sampleGenesis 1000000000000000000000000 none)).Run start events
        chain ∧
      events.map Event.label = [] ∧
      (∃ current amount, chain.storage.state = some current ∧
        decayedAmount (blockAt 180).block.time current 0 = some amount ∧
        ¬ TaxComputed chain.storage { current with demurrageAmount := amount }) ∧
      Handler.run (execute sampleApi (blockAt 180) ⟨⟨"alice"⟩⟩ (.transfer "bob" 1000))
        chain.storage = none := by
  obtain ⟨start, events, chain, run, labels, passed⟩ :=
    exists_run sampleApi (sampleGenesis 1000000000000000000000000 none) []
      (fun _ chain => decide (
        (chain.storage.state.any fun current =>
          decayedAmount (blockAt 180).block.time current 0 ==
            some 98010000000000000000000) ∧
        (chain.storage.tokenInfo.any fun info =>
          info.totalSupply == 1000000000000000000000000) ∧
        (Handler.run (execute sampleApi (blockAt 180) ⟨⟨"alice"⟩⟩ (.transfer "bob" 1000))
          chain.storage).isNone))
      (by decide +kernel)
  obtain ⟨decays, supplied, aborted⟩ := of_decide_eq_true passed
  obtain ⟨current, stored, decayed⟩ := (Option.any_eq_true _ _).mp decays
  obtain ⟨info, token, supply⟩ := (Option.any_eq_true _ _).mp supplied
  refine ⟨start, events, chain, run, labels, ⟨current, _, stored, eq_of_beq decayed, ?_⟩,
    Option.isNone_iff_eq_none.mp aborted⟩
  have bounded : (98010000000000000000000 : U128).toNat ≤ fullAmount := by decide
  have overflows : ¬ (1000000000000000000000000 : U128).toNat *
      (10 ^ 28 - (98010000000000000000000 : U128).toNat * 10 ^ 5) < 2 ^ 128 := by decide
  rw [taxComputed_iff token bounded, eq_of_beq supply]
  exact overflows

/-! ## The base value -/

/-- The conversion returns the amount over the modifier, rounded down. -/
def Converts (amount modifier : U128) : Prop :=
  ∃ base, toBaseAmount amount modifier = some base ∧
    base.toNat = amount.toNat * fullAmount / modifier.toNat

theorem converts_iff {amount modifier : U128} (positive : 0 < modifier.toNat)
    (bounded : modifier.toNat ≤ fullAmount) :
    Converts amount modifier ↔ amount.toNat ≤ maxConvertible := by
  have room : amount.toNat ≤ maxConvertible ↔ amount.toNat * 10 ^ 28 < 2 ^ 128 := by
    unfold maxConvertible
    omega
  rw [room]
  constructor
  · intro converts
    obtain ⟨base, converted, _⟩ := converts
    exact (toBaseAmount_eq_some.mp converted).1
  · intro fits
    have divisorFits : modifier.toNat * 10 ^ 5 < 2 ^ 128 :=
      (Nat.mul_le_mul_right _ bounded).trans_lt (by decide)
    have quotientFits : amount.toNat * 10 ^ 28 / (modifier.toNat * 10 ^ 5) < 2 ^ 128 :=
      (Nat.div_le_self _ _).trans_lt fits
    obtain ⟨base, quotient⟩ := @Checked.word_exists 128 _ quotientFits
    have converted : toBaseAmount amount modifier = some base :=
      toBaseAmount_eq_some.mpr ⟨fits, divisorFits, positive.ne', quotient⟩
    exact ⟨base, converted, (toBaseAmount_value converted).2⟩

/-- In every reachable state an amount is converted, at the stored modifier and
at every positive one it decays to, exactly when it is at most 34028236692; so
every amount within the supply is exactly when the supply is. -/
theorem supply_converts_iff (reachable : (tokenSystem api genesis).Reachable chain) :
    ∃ config current, chain.storage.tokenInfo = some config ∧
      chain.storage.state = some current ∧
      ∀ modifier : U128, 0 < modifier.toNat →
        (modifier = current.demurrageAmount ∨
          ∃ now, decayedAmount now current 0 = some modifier) →
        (∀ amount, Converts amount modifier ↔ amount.toNat ≤ 34028236692) ∧
          ((∀ amount : U128, amount.toNat ≤ config.totalSupply.toNat →
            Converts amount modifier) ↔ config.totalSupply.toNat ≤ 34028236692) := by
  have wellFormed := wellFormed_of_reachable reachable
  obtain ⟨config, token⟩ := wellFormed.token
  obtain ⟨current, stored, kept⟩ := wellFormed.record
  refine ⟨config, current, token, stored, ?_⟩
  intro modifier positive reached
  have bounded : modifier.toNat ≤ fullAmount := by
    rcases reached with rfl | decays
    · exact kept.bounded
    · obtain ⟨now, decayed⟩ := decays
      exact (decayedAmount_le decayed).trans kept.bounded
  have each : ∀ amount, Converts amount modifier ↔ amount.toNat ≤ 34028236692 := by
    intro amount
    exact converts_iff positive bounded
  refine ⟨each, ?_⟩
  constructor
  · intro all
    exact (each _).mp (all config.totalSupply le_rfl)
  · intro small amount within
    exact (each amount).mpr (within.trans small)

/-- Every amount up to a supply of a million is converted after two transfers. -/
theorem supply_converts_transfers :
    ∃ start events chain current,
      (tokenSystem sampleApi (sampleGenesis 1000000 none)).Run start events chain ∧
      events.map Event.label =
        [callAt 180 "alice" (.transfer "bob" 1000), callAt 240 "alice" (.transfer "bob" 1000)] ∧
      chain.storage.state = some current ∧
      ∀ amount : U128, amount.toNat ≤ 1000000 → Converts amount current.demurrageAmount := by
  obtain ⟨start, events, chain, run, labels, passed⟩ :=
    exists_run sampleApi (sampleGenesis 1000000 none)
      [callAt 180 "alice" (.transfer "bob" 1000), callAt 240 "alice" (.transfer "bob" 1000)]
      (fun _ chain => decide (∀ current ∈ chain.storage.state, 0 < current.demurrageAmount.toNat))
      (by decide +kernel)
  have positive := of_decide_eq_true passed
  obtain ⟨config, current, _, stored, converts⟩ := supply_converts_iff run.reachable
  refine ⟨start, events, chain, current, run, labels, stored, ?_⟩
  intro amount small
  apply ((converts _ (positive current stored) (Or.inl rfl)).1 amount).mpr
  exact small.trans (by decide)

/-- Half of a supply of a hundred thousand tokens of six decimals cannot be
moved, although alice holds all of it and nothing has decayed yet. -/
theorem half_supply_stuck :
    ∃ start events chain,
      (tokenSystem sampleApi (sampleGenesis 100000000000 none)).Run start events chain ∧
      events.map Event.label = [] ∧
      held chain.storage.balances ⟨"alice"⟩ = 100000000000 ∧
      (∃ current, chain.storage.state = some current ∧
        ¬ Converts 50000000000 current.demurrageAmount) ∧
      Handler.run (execute sampleApi (blockAt 30) ⟨⟨"alice"⟩⟩ (.transfer "bob" 50000000000))
        chain.storage = none := by
  obtain ⟨start, events, chain, run, labels, passed⟩ :=
    exists_run sampleApi (sampleGenesis 100000000000 none) []
      (fun _ chain => decide (
        held chain.storage.balances ⟨"alice"⟩ = 100000000000 ∧
        (chain.storage.state.any fun current =>
          (toBaseAmount 50000000000 current.demurrageAmount).isNone) ∧
        (Handler.run (execute sampleApi (blockAt 30) ⟨⟨"alice"⟩⟩
          (.transfer "bob" 50000000000)) chain.storage).isNone))
      (by decide +kernel)
  obtain ⟨holds, overflows, aborted⟩ := of_decide_eq_true passed
  obtain ⟨current, stored, stuck⟩ := (Option.any_eq_true _ _).mp overflows
  refine ⟨start, events, chain, run, labels, holds, ⟨current, stored, ?_⟩,
    Option.isNone_iff_eq_none.mp aborted⟩
  intro converts
  obtain ⟨base, converted, _⟩ := converts
  rw [converted] at stuck
  cases stuck

end DemurrageToken.Properties
