import DemurrageToken.Spec.FixedPoint
import DemurrageToken.Spec.Updates

/-!
Contract: what `apply_demurrage_limited` and `change_period` do, as relations.

Owns: the modifier a demurrage application leaves, the update of the demurrage
record, the payment to the sink, and the equivalences that tie them to the two
functions.

Does not own: the handlers that call `change_period`.
-/

namespace DemurrageToken.Spec

open DemurrageToken.Library
open DemurrageToken.Library.Handler
open DemurrageToken.Library.Ledger
open DemurrageToken.Contract

/-! ## Demurrage -/

/-- The modifier that `apply_demurrage_limited` leaves, if nothing aborts. The
advance of the demurrage timestamp can abort although nothing keeps it. -/
def decayedAmount (now : Timestamp) (current : State) (rounds : U64) : Option U128 := do
  let elapsed ← getMinutesDelta now current.demurrageTimestamp
  if elapsed = 0 then
    pure current.demurrageAmount
  else
    let amount ← decayBy current.demurrageAmount current.taxLevel (limitRounds elapsed rounds)
    let advance ← Checked.mul (limitRounds elapsed rounds) 60
    let _later ← current.demurrageTimestamp.plusSeconds advance
    pure amount

theorem decayedAmount_le {now : Timestamp} {current : State} {rounds : U64} {amount : U128}
    (decayed : decayedAmount now current rounds = some amount) :
    amount.toNat ≤ current.demurrageAmount.toNat := by
  simp only [decayedAmount, Option.bind_eq_bind, Option.bind_eq_some_iff] at decayed
  rcases decayed with ⟨elapsed, _, decayed⟩
  split at decayed
  · cases decayed
    exact le_rfl
  · simp only [Option.bind_eq_some_iff] at decayed
    rcases decayed with ⟨lowered, fewer, _, _, _, _, same⟩
    cases same
    exact decayBy_le fewer

theorem decayedAmount_minutes {now : Timestamp} {current : State} {rounds : U64} {amount : U128}
    (decayed : decayedAmount now current rounds = some amount) :
    ∃ elapsed, getMinutesDelta now current.demurrageTimestamp = some elapsed := by
  simp only [decayedAmount, Option.bind_eq_bind, Option.bind_eq_some_iff] at decayed
  rcases decayed with ⟨elapsed, minutes, _⟩
  exact ⟨elapsed, minutes⟩

theorem returns_applyDemurrageLimited {now : Timestamp} {current updated : State}
    {rounds : U64} {flag : Bool} {before after : Storage} :
    Returns (applyDemurrageLimited now current rounds) before (flag, updated) after ↔
      ∃ elapsed amount, getMinutesDelta now current.demurrageTimestamp = some elapsed ∧
        decayedAmount now current rounds = some amount ∧
        updated = { current with demurrageAmount := amount } ∧
        flag = decide (elapsed ≠ 0) ∧
        after = if elapsed = 0 then before else { before with state := some updated } := by
  simp only [applyDemurrageLimited, returns_bind, returns_checked]
  constructor
  · intro found
    rcases found with ⟨elapsed, _, ⟨minutes, rfl⟩, rest⟩
    by_cases idle : elapsed = 0
    · rw [if_pos idle, returns_pure] at rest
      rcases rest with ⟨same, rfl⟩
      cases same
      refine ⟨elapsed, current.demurrageAmount, minutes, ?_, rfl, ?_, (if_pos idle).symm⟩
      · simp only [decayedAmount, minutes, Option.bind_eq_bind, Option.bind_some, if_pos idle]
        rfl
      · exact (decide_eq_false (not_not.mpr idle)).symm
    · simp only [idle, if_false, returns_bind, returns_checked, returns_pure,
        Item.returns_save] at rest
      obtain ⟨amount, _, ⟨decayed, rfl⟩, advance, _, ⟨product, rfl⟩, later, _, ⟨sum, rfl⟩,
        _, _, rfl, same, rfl⟩ := rest
      cases same
      refine ⟨elapsed, amount, minutes, ?_, rfl, (decide_eq_true idle).symm, ?_⟩
      · rw [decayedAmount, minutes]
        simp only [Option.bind_eq_bind, Option.bind_some, if_neg idle]
        rw [decayed, Option.bind_some, product, Option.bind_some, sum, Option.bind_some]
        rfl
      · rw [if_neg idle]
        rfl
  · intro found
    rcases found with ⟨elapsed, amount, minutes, decayed, rfl, rfl, rfl⟩
    refine ⟨elapsed, before, ⟨minutes, rfl⟩, ?_⟩
    simp only [decayedAmount, minutes, Option.bind_eq_bind, Option.bind_some] at decayed
    by_cases idle : elapsed = 0
    · rw [if_pos idle] at decayed
      cases decayed
      rw [if_pos idle, if_pos idle, returns_pure, decide_eq_false (not_not.mpr idle)]
      exact ⟨rfl, rfl⟩
    · simp only [if_neg idle, Option.bind_eq_some_iff] at decayed
      rcases decayed with ⟨lowered, fewer, advance, product, later, sum, same⟩
      cases same
      simp only [idle, if_false, returns_bind, returns_checked, returns_pure, Item.returns_save,
        decide_eq_true idle]
      exact ⟨amount, before, ⟨fewer, rfl⟩, advance, before, ⟨product, rfl⟩, later, before,
        ⟨sum, rfl⟩, (), _, rfl, rfl, rfl⟩

/-! ## The record -/

/-- How `change_period` updates the demurrage record: the modifier decays and
the period count advances by one, whatever the time. The grown modifier is
computed and not kept. -/
structure Advances (now : Timestamp) (current updated : State) : Prop where
  decayed : decayedAmount now current 0 = some updated.demurrageAmount
  counted : current.currentPeriod.toNat + 1 = updated.currentPeriod.toNat
  clock : ∃ stamp cycles,
    getPeriodTimeDelta current.startTimestamp current.currentPeriod current.periodMinute =
        some stamp ∧
      demurrageCycles now stamp = some cycles ∧
      (0 < cycles → ∃ grown, growBy updated.demurrageAmount current.taxLevel cycles = some grown)
  kept : updated = { current with
    demurrageAmount := updated.demurrageAmount
    currentPeriod := updated.currentPeriod }

/-- The update in the order of the code. -/
private theorem advances_iff {now : Timestamp} {current updated : State} :
    Advances now current updated ↔
      ∃ amount next stamp cycles grown, decayedAmount now current 0 = some amount ∧
        Checked.add current.currentPeriod 1 = some next ∧
        getPeriodTimeDelta current.startTimestamp current.currentPeriod current.periodMinute =
          some stamp ∧
        demurrageCycles now stamp = some cycles ∧
        (if 0 < cycles then growBy amount current.taxLevel cycles else some amount) =
          some grown ∧
        updated = { current with demurrageAmount := amount, currentPeriod := next } := by
  constructor
  · intro found
    rcases found with ⟨decayed, counted, ⟨stamp, cycles, stamped, clocked, growth⟩, kept⟩
    by_cases later : 0 < cycles
    · rcases growth later with ⟨grown, growth⟩
      refine ⟨_, _, stamp, cycles, grown, decayed, Checked.add_eq_some.mpr counted, stamped,
        clocked, ?_, kept⟩
      rw [if_pos later]
      exact growth
    · refine ⟨_, _, stamp, cycles, _, decayed, Checked.add_eq_some.mpr counted, stamped,
        clocked, if_neg later, kept⟩
  · intro found
    rcases found with
      ⟨amount, next, stamp, cycles, grown, decayed, counted, stamped, clocked, growth, rfl⟩
    refine ⟨decayed, Checked.add_eq_some.mp counted, ⟨stamp, cycles, stamped, clocked, ?_⟩, rfl⟩
    intro later
    rw [if_pos later] at growth
    exact ⟨grown, growth⟩

theorem Advances.demurrageAmount_le {now : Timestamp} {current updated : State}
    (advances : Advances now current updated) :
    updated.demurrageAmount.toNat ≤ current.demurrageAmount.toNat :=
  decayedAmount_le advances.decayed

/-- The update has one outcome. -/
theorem Advances.unique {now : Timestamp} {current left right : State}
    (first : Advances now current left) (second : Advances now current right) : left = right := by
  have sameAmount : left.demurrageAmount = right.demurrageAmount :=
    Option.some.inj (first.decayed.symm.trans second.decayed)
  have samePeriod : left.currentPeriod = right.currentPeriod :=
    BitVec.eq_of_toNat_eq (first.counted.symm.trans second.counted)
  rw [first.kept, second.kept, sameAmount, samePeriod]

/-! ## The payment to the sink -/

/-- How `change_period` moves the balances. Its caller sees none of the
errors: without a token record, or with a sink that does not validate, nothing
is paid. -/
inductive Redistributes (api : Api) (token : Option TokenInfo) (updated : State)
    (funds : Balances) : Balances → Prop where
  | noToken (missing : token = none) : Redistributes api token updated funds funds
  | noSink {info : TokenInfo} {distribution : U128} {error : StdError}
      (present : token = some info)
      (due : distributionOf info.totalSupply updated.demurrageAmount = some distribution)
      (invalid : api.addrValidate updated.sinkAddress = .error error) :
      Redistributes api token updated funds funds
  | paid {info : TokenInfo} {distribution : U128} {sink : Addr} {after : Balances}
      (present : token = some info)
      (due : distributionOf info.totalSupply updated.demurrageAmount = some distribution)
      (valid : api.addrValidate updated.sinkAddress = .ok sink)
      (credits : Credits funds sink distribution.toNat after) :
      Redistributes api token updated funds after

theorem returns_getDistribution {updated : State} {before after : Storage}
    {distribution : U128} :
    Returns (getDistribution updated) before distribution after ↔
      (∃ info, before.tokenInfo = some info ∧
        distributionOf info.totalSupply updated.demurrageAmount = some distribution) ∧
      before = after := by
  simp only [getDistribution, returns_bind, Item.returns_mayLoad, returns_orThrow,
    returns_checked]
  constructor
  · intro found
    rcases found with ⟨_, _, ⟨rfl, rfl⟩, info, _, ⟨present, rfl⟩, due, rfl⟩
    exact ⟨⟨info, present, due⟩, rfl⟩
  · intro found
    rcases found with ⟨⟨info, present, due⟩, rfl⟩
    exact ⟨_, before, ⟨rfl, rfl⟩, info, before, ⟨present, rfl⟩, due, rfl⟩

theorem settles_getDistribution_error {updated : State} {before after : Storage}
    {error : ContractError} :
    Settles (getDistribution updated) before (.error error) after ↔
      before.tokenInfo = none ∧ .unauthorized = error ∧ before = after := by
  simp only [getDistribution, settles_bind, Item.mayLoad, settles_read, returns_read,
    returns_orThrow, settles_orThrow_error, settles_checked]
  constructor
  · rintro (⟨_, _, ⟨rfl, rfl⟩, failed⟩ | ⟨_, ⟨mismatch, _⟩, _⟩)
    · rcases failed with ⟨_, _, _, ⟨_, _, mismatch⟩, _⟩ | ⟨_, ⟨missing, rfl, rfl⟩, same⟩
      · cases mismatch
      · exact ⟨missing, (Except.error.inj same).symm, rfl⟩
    · cases mismatch
  · intro found
    rcases found with ⟨missing, rfl, rfl⟩
    exact Or.inl ⟨_, before, ⟨rfl, rfl⟩, Or.inr ⟨_, ⟨missing, rfl, rfl⟩, rfl⟩⟩

/-- The redistribution either fails to validate the sink, with nothing written,
or credits it. -/
theorem settles_applyDefaultRedistribution {api : Api} {updated : State}
    {distribution : U128} {before after : Storage} :
    (∃ result, Settles (applyDefaultRedistribution api updated distribution) before result after) ↔
      (∃ error, api.addrValidate updated.sinkAddress = .error error ∧ before = after) ∨
      ∃ sink funds, api.addrValidate updated.sinkAddress = .ok sink ∧
        Credits before.balances sink distribution.toNat funds ∧
        { before with balances := funds } = after := by
  simp only [applyDefaultRedistribution, settles_bind, returns_addrValidate, returns_credit,
    settles_pure]
  constructor
  · rintro ⟨_, ⟨sink, _, ⟨valid, rfl⟩, credited⟩ | ⟨_, failed, _⟩⟩
    · rcases credited with ⟨value, _, ⟨sum, rfl⟩, _, rfl⟩ | ⟨_, failed, _⟩
      · exact Or.inr ⟨sink, _, valid, ⟨value, sum, rfl⟩, rfl⟩
      · exact absurd failed not_settles_credit_error
    · rcases settles_addrValidate_error.mp failed with ⟨⟨error, invalid, _⟩, rfl⟩
      exact Or.inl ⟨error, invalid, rfl⟩
  · rintro (⟨error, invalid, rfl⟩ | ⟨sink, _, valid, ⟨value, sum, rfl⟩, rfl⟩)
    · exact ⟨_, Or.inr ⟨_, settles_addrValidate_error.mpr ⟨⟨error, invalid, rfl⟩, rfl⟩, rfl⟩⟩
    · exact ⟨_, Or.inl ⟨sink, before, ⟨valid, rfl⟩, Or.inl ⟨value, _, ⟨sum, rfl⟩, rfl, rfl⟩⟩⟩

/-- What `change_period` does after it has saved the record. -/
theorem returns_redistribution {api : Api} {updated record : State} {before after : Storage} :
    (∃ result, Returns (do
        match ← attempt (getDistribution updated) with
        | .error error => pure (.error error, updated)
        | .ok distribution =>
            let _dropped ← attempt (applyDefaultRedistribution api updated distribution)
            pure (.ok true, updated) : TokenHandler (Except ContractError Bool × State))
      before (result, record) after) ↔
      updated = record ∧ ∃ funds,
        Redistributes api before.tokenInfo updated before.balances funds ∧
        { before with balances := funds } = after := by
  simp only [returns_bind, returns_attempt]
  constructor
  · intro found
    rcases found with ⟨result, distributed, middle, settled, rest⟩
    cases distributed with
    | error error =>
        rcases settles_getDistribution_error.mp settled with ⟨missing, _, rfl⟩
        rcases returns_pure.mp rest with ⟨same, rfl⟩
        cases same
        exact ⟨rfl, before.balances, .noToken missing, rfl⟩
    | ok distribution =>
        rcases returns_getDistribution.mp settled with ⟨⟨info, present, due⟩, rfl⟩
        simp only [returns_bind, returns_attempt, returns_pure] at rest
        rcases rest with ⟨outcome, _, redistributed, same, rfl⟩
        cases same
        refine ⟨rfl, ?_⟩
        rcases settles_applyDefaultRedistribution.mp ⟨outcome, redistributed⟩ with
          ⟨error, invalid, rfl⟩ | ⟨sink, funds, valid, credits, rfl⟩
        · exact ⟨before.balances, .noSink present due invalid, rfl⟩
        · exact ⟨funds, .paid present due valid credits, rfl⟩
  · intro found
    rcases found with ⟨rfl, funds, redistributes, rfl⟩
    have paying : ∀ {info : TokenInfo} {distribution : U128} {after : Storage},
        before.tokenInfo = some info →
        distributionOf info.totalSupply updated.demurrageAmount = some distribution →
        (∃ outcome, Settles (applyDefaultRedistribution api updated distribution) before
          outcome after) →
        ∃ result : Except ContractError Bool, ∃ distributed middle,
          Settles (getDistribution updated) before distributed middle ∧
          Returns (match distributed with
            | .error error => pure (.error error, updated)
            | .ok distribution => do
                let _dropped ← attempt (applyDefaultRedistribution api updated distribution)
                pure (.ok true, updated)) middle (result, updated) after := by
      rintro info distribution after present due ⟨outcome, redistributed⟩
      refine ⟨.ok true, .ok distribution, before,
        returns_getDistribution.mpr ⟨⟨info, present, due⟩, rfl⟩, ?_⟩
      exact returns_bind.mpr ⟨outcome, _, returns_attempt.mpr redistributed,
        returns_pure.mpr ⟨rfl, rfl⟩⟩
    cases redistributes with
    | noToken missing =>
        exact ⟨_, .error .unauthorized, before,
          settles_getDistribution_error.mpr ⟨missing, rfl, rfl⟩, returns_pure.mpr ⟨rfl, rfl⟩⟩
    | noSink present due invalid =>
        exact paying present due
          (settles_applyDefaultRedistribution.mpr (Or.inl ⟨_, invalid, rfl⟩))
    | paid present due valid credits =>
        exact paying present due
          (settles_applyDefaultRedistribution.mpr (Or.inr ⟨_, _, valid, credits, rfl⟩))

theorem returns_changePeriod {api : Api} {env : Env} {current updated : State}
    {before after : Storage} :
    (∃ result, Returns (changePeriod api env current) before (result, updated) after) ↔
      ∃ funds, Advances env.block.time current updated ∧
        Redistributes api before.tokenInfo updated before.balances funds ∧
        { before with state := some updated, balances := funds } = after := by
  simp only [changePeriod, applyDemurrage]
  constructor
  · intro found
    rcases found with ⟨result, returned⟩
    simp only [returns_bind, Prod.exists, returns_applyDemurrageLimited, returns_checked,
      Item.returns_save, and_assoc, exists_and_left, exists_eq_left', exists_const] at returned
    rcases returned with ⟨_, _, _, ⟨elapsed, minutes, amount, decayed, rfl, _, rfl⟩, next,
      counted, stamp, stamped, cycles, clocked, grown, growth, rest⟩
    rcases returns_redistribution.mp ⟨result, returns_bind.mpr rest⟩ with
      ⟨rfl, funds, redistributes, rfl⟩
    refine ⟨funds, advances_iff.mpr ⟨amount, next, stamp, cycles, grown, decayed, counted, stamped,
      clocked, growth, rfl⟩, ?_, ?_⟩
    · split at redistributes
      all_goals exact redistributes
    · split <;> rfl
  · intro found
    rcases found with ⟨funds, advances, redistributes, rfl⟩
    rcases advances_iff.mp advances with
      ⟨amount, next, stamp, cycles, grown, decayed, counted, stamped, clocked, growth, rfl⟩
    rcases decayedAmount_minutes decayed with ⟨elapsed, minutes⟩
    let advanced : State := { current with demurrageAmount := amount, currentPeriod := next }
    -- Whether or not the demurrage application saved, the second save wins.
    have saved : ∀ idle : Prop, [Decidable idle] →
        state.replace (some advanced)
          (if idle then before
          else { before with state := some { current with demurrageAmount := amount } }) =
        { before with state := some advanced } := by
      intro idle _
      split <;> rfl
    obtain ⟨result, redistributed⟩ :=
      (@returns_redistribution api advanced advanced { before with state := some advanced } _).mpr
        ⟨rfl, funds, redistributes, rfl⟩
    refine ⟨result, ?_⟩
    simp only [returns_bind, Prod.exists, returns_applyDemurrageLimited, returns_checked,
      Item.returns_save, and_assoc, exists_and_left, exists_eq_left', exists_const]
    refine ⟨_, _, _, ⟨elapsed, minutes, amount, decayed, rfl, rfl, rfl⟩, next, counted, stamp,
      stamped, cycles, clocked, grown, growth, ?_⟩
    rw [saved]
    exact returns_bind.mp redistributed

/-- The redistribution goes through exactly when the distribution can be computed
and a sink that validates has room for it. -/
theorem redistributes_exists_iff {api : Api} {info : TokenInfo} {updated : State}
    {before : Balances} :
    (∃ funds, Redistributes api (some info) updated before funds) ↔
      ∃ distribution,
        distributionOf info.totalSupply updated.demurrageAmount = some distribution ∧
        ∀ sink, api.addrValidate updated.sinkAddress = .ok sink →
          held before sink + distribution.toNat < 2 ^ 128 := by
  constructor
  · intro found
    obtain ⟨funds, redistributes⟩ := found
    cases redistributes with
    | noToken missing => cases missing
    | noSink present due invalid =>
        cases present
        refine ⟨_, due, ?_⟩
        intro sink valid
        cases invalid.symm.trans valid
    | paid present due valid credits =>
        cases present
        refine ⟨_, due, ?_⟩
        intro sink sameValid
        cases valid.symm.trans sameValid
        exact credits_exists_iff.mp ⟨_, credits⟩
  · intro found
    obtain ⟨distribution, due, room⟩ := found
    cases valid : api.addrValidate updated.sinkAddress with
    | error error => exact ⟨before, .noSink rfl due valid⟩
    | ok sink =>
        obtain ⟨funds, credits⟩ := credits_exists_iff.mpr (room sink valid)
        exact ⟨funds, .paid rfl due valid credits⟩

/-- A change of period returns exactly when its redistribution goes through. -/
theorem changePeriod_exists_iff {api : Api} {env : Env} {current updated : State}
    {before : Storage} {info : TokenInfo} (token : before.tokenInfo = some info)
    (advances : Advances env.block.time current updated) :
    (∃ result after, Returns (changePeriod api env current) before (result, updated) after) ↔
      ∃ distribution,
        distributionOf info.totalSupply updated.demurrageAmount = some distribution ∧
        ∀ sink, api.addrValidate updated.sinkAddress = .ok sink →
          held before.balances sink + distribution.toNat < 2 ^ 128 := by
  rw [exists_comm, ← redistributes_exists_iff]
  simp only [returns_changePeriod, token, advances, true_and]
  constructor
  · intro found
    obtain ⟨_, funds, redistributes, _⟩ := found
    exact ⟨funds, redistributes⟩
  · intro found
    obtain ⟨funds, redistributes⟩ := found
    exact ⟨_, funds, redistributes, rfl⟩

end DemurrageToken.Spec
