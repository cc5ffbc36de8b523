import DemurrageToken.Spec.Funds
import DemurrageToken.Spec.Regions

/-!
Contract: what holds in every reachable state.

Owns: the invariant `WellFormed`, that instantiation establishes it and every
message keeps it, and how a step of the system reads as an `Effect`.

Does not own: properties of histories.
-/

namespace DemurrageToken.Spec

open DemurrageToken.Library
open DemurrageToken.Library.Ledger
open DemurrageToken.Contract

/-- What no message changes in the demurrage record, and the bound on its
modifier. Both timestamps stay at the time of instantiation. -/
structure RecordKept (genesis : Genesis) (current : State) : Prop where
  started : current.startTimestamp = genesis.env.block.time
  charged : current.demurrageTimestamp = genesis.env.block.time
  minute : current.periodMinute.toNat = genesis.msg.periodMinutes.toNat * 60
  bounded : current.demurrageAmount.toNat ≤ fullAmount

/-- The invariant of the storage. -/
structure WellFormed (api : Api) (genesis : Genesis) (storage : Storage) : Prop where
  token : ∃ config, storage.tokenInfo = some config
  record : ∃ current, storage.state = some current ∧ RecordKept genesis current
  within : Within storage.balances (Validates api)
  noSelf : ∀ account, (account, account) ∉ storage.allowances

variable {api : Api} {genesis : Genesis}

theorem Instantiates.wellFormed {storage : Storage}
    (instantiates : Instantiates api genesis.env genesis.msg storage) :
    WellFormed api genesis storage := by
  obtain ⟨within, _, duration, _, _, rfl⟩ := instantiates
  exact {
    token := ⟨_, rfl⟩
    record := ⟨_, rfl, rfl, rfl, duration.symm, le_rfl⟩
    within := within
    noSelf := fun _ => Std.ExtTreeMap.not_mem_empty }

/-! ## Steps -/

theorem RecordStep.kept {now : Timestamp} {current updated : State} {msg : ExecuteMsg}
    (step : RecordStep now current msg updated) (kept : RecordKept genesis current) :
    RecordKept genesis updated := by
  cases step with
  | advance _ advances =>
      have bounded := advances.demurrageAmount_le.trans kept.bounded
      rw [advances.kept]
      exact ⟨kept.started, kept.charged, kept.minute, bounded⟩
  | sink => exact ⟨kept.started, kept.charged, kept.minute, kept.bounded⟩
  | tax => exact ⟨kept.started, kept.charged, kept.minute, kept.bounded⟩
  | keep _ _ => exact kept

/-- Writing an entry for two different accounts creates no self-allowance. -/
private theorem noSelf_insert {allowed : Allowances} {owner spender : Addr}
    {entry : AllowanceResponse} (different : spender ≠ owner)
    (noSelf : ∀ account, (account, account) ∉ allowed) (account : Addr) :
    (account, account) ∉ allowed.insert (owner, spender) entry := by
  rw [Std.ExtTreeMap.mem_insert, Std.LawfulEqCmp.compare_eq_iff_eq]
  rintro (same | earlier)
  · rw [Prod.mk.injEq] at same
    exact different (same.2.trans same.1.symm)
  · exact noSelf account earlier

theorem AllowanceStep.noSelf {block : BlockInfo} {sender : Addr} {record : Option State}
    {before after : Allowances} {msg : ExecuteMsg}
    (step : AllowanceStep api block sender record before msg after)
    (noSelf : ∀ account, (account, account) ∉ before) :
    ∀ account, (account, account) ∉ after := by
  cases step with
  | grant _ distinct _ _ grants =>
      obtain ⟨_, _, rfl⟩ := grants
      exact noSelf_insert distinct noSelf
  | lower _ distinct lowers =>
      cases lowers with
      | lowered _ _ _ => exact noSelf_insert distinct noSelf
      | removed _ _ =>
          intro account member
          exact noSelf account (Std.ExtTreeMap.mem_of_mem_erase member)
  | @draw _ _ ownerAddr _ _ _ _ draws =>
      obtain ⟨entry, _, present, _, _, rfl⟩ := draws
      have member : (ownerAddr, sender) ∈ before :=
        Std.ExtTreeMap.isSome_getElem?_iff_mem.mp (Option.isSome_of_eq_some present)
      apply noSelf_insert _ noSelf
      rintro rfl
      exact noSelf _ member
  | keep _ _ => exact noSelf

theorem Effect.wellFormed {env : Env} {sender : Addr} {before after : Storage}
    {msg : ExecuteMsg} (effect : Effect api env sender before after msg)
    (wellFormed : WellFormed api genesis before) : WellFormed api genesis after := by
  obtain ⟨⟨config, token⟩, ⟨current, record, kept⟩, within, noSelf⟩ := wellFormed
  obtain ⟨updatedConfig, tokenSaved, _⟩ := effect.token token
  obtain ⟨updated, recordSaved, recordStep⟩ := effect.record record
  exact {
    token := ⟨updatedConfig, tokenSaved⟩
    record := ⟨updated, recordSaved, recordStep.kept kept⟩
    within := effect.within within
    noSelf := effect.allowances.noSelf noSelf }

/-! ## Runs -/

theorem instantiates_of_init {chain : Chain} (initial : (tokenSystem api genesis).init chain) :
    Instantiates api genesis.env genesis.msg chain.storage := by
  obtain ⟨⟨response, returned⟩, _⟩ := initial
  exact instantiates_of_returns returned

theorem effect_of_step {chain next : Chain} {call : Call}
    (step : (tokenSystem api genesis).step chain call next) :
    Effect api call.env call.info.sender chain.storage next.storage call.msg :=
  executes_iff_effect.mp step.2.1

theorem wellFormed_of_reachable {chain : Chain}
    (reachable : (tokenSystem api genesis).Reachable chain) :
    WellFormed api genesis chain.storage := by
  refine reachable.invariant (fun chain => WellFormed api genesis chain.storage) ?_ ?_
  · intro start initial
    exact (instantiates_of_init initial).wellFormed
  · intro state call next _ wellFormed step
    exact (effect_of_step step).wellFormed wellFormed

end DemurrageToken.Spec
