import DemurrageToken.Contract.Replay
import DemurrageToken.Spec.Invariants

/-!
Contract: the total a run pays to the sink.

`get_distribution` taxes the whole supply with the whole decay since the start,
and `change_period` pays that on every call. Two payments therefore overlap.

Owns: what an event pays, the bound on the sum over a run, and the runs that
keep it.

Does not own: runs that change the supply.
-/

namespace DemurrageToken.Properties

open DemurrageToken.Library
open DemurrageToken.Library.System
open DemurrageToken.Library.Handler
open DemurrageToken.Library.Ledger
open DemurrageToken.Contract
open DemurrageToken.Spec

/-! ## Payments -/

/-- The messages that leave the supply as it is. -/
def keepsSupply : ExecuteMsg → Bool
  | .mint .. | .burn .. | .burnFrom .. => false
  | _ => true

/-- The token system without mints and burns. -/
def fixedSupplySystem (api : Api) (genesis : Genesis) : System Chain Call :=
  (tokenSystem api genesis).restrict fun call => keepsSupply call.msg = true

/-- What `apply_default_redistribution` credits in an event: the growth of the
balances over the call of `change_period`, which writes no balance otherwise. -/
def redistributed (api : Api) (event : Event Chain Call) : Nat :=
  match changesPeriod event.label.msg, event.source.storage.state with
  | true, some current =>
      match run (changePeriod api event.label.env current) event.source.storage with
      | some (_, after) => total after.balances - total event.source.storage.balances
      | none => 0
  | _, _ => 0

/-- The payments so far are covered by the decay of the stored modifier. -/
def PaidOnce (api : Api) (supply : Nat) (events : List (Event Chain Call)) (chain : Chain) :
    Prop :=
  ∀ current ∈ chain.storage.state,
    (events.map (redistributed api)).sum ≤ taxOf supply current.demurrageAmount.toNat

/-- The event runs `change_period` while the sink is valid. -/
def PaysSink (api : Api) (event : Event Chain Call) : Prop :=
  changesPeriod event.label.msg = true ∧
    ∀ current ∈ event.source.storage.state, (api.addrValidate current.sinkAddress).isOk

/-- The event pays, and at its decayed modifier the tax on the supply has
reached a unit. -/
def PaysUnit (api : Api) (supply : Nat) (event : Event Chain Call) : Prop :=
  PaysSink api event ∧
    ∀ current ∈ event.source.storage.state,
      ∀ modifier ∈ decayedAmount event.label.env.block.time current 0,
        fullAmount ≤ supply * (fullAmount - modifier.toNat)

instance (api : Api) (event : Event Chain Call) : Decidable (PaysSink api event) :=
  inferInstanceAs (Decidable (_ = true ∧ ∀ current ∈ event.source.storage.state, _ = true))

-- The instance is named: the default one tries every word for the modifier.
instance (api : Api) (supply : Nat) (event : Event Chain Call) :
    Decidable (PaysUnit api supply event) :=
  @instDecidableAnd _ _ _ (@Option.decidableForallMem _ _
    (fun current => Option.decidableForallMem
      (decayedAmount event.label.env.block.time current 0)) event.source.storage.state)

theorem taxOf_mono {supply lower higher : Nat} (ordered : lower ≤ higher) :
    taxOf supply higher ≤ taxOf supply lower := by
  apply Nat.div_le_div_right
  apply Nat.mul_le_mul_left
  omega

variable {api : Api} {genesis : Genesis}

/-- An event that runs `change_period` credits the payout at the new modifier. -/
theorem redistributed_eq_payout {chain next : Chain} {call : Call} {current : State}
    (effect : Effect api call.env call.info.sender chain.storage next.storage call.msg)
    (changes : changesPeriod call.msg = true) (kept : keepsSupply call.msg = true)
    (stored : chain.storage.state = some current) :
    ∃ updated, next.storage.state = some updated ∧
      Advances call.env.block.time current updated ∧
      redistributed api ⟨chain, call, next⟩ = payout api chain.storage.tokenInfo updated := by
  have changing : ∃ updated funds, next.storage.state = some updated ∧
      Advances call.env.block.time current updated ∧
      Redistributes api chain.storage.tokenInfo updated chain.storage.balances funds := by
    obtain ⟨env, info, msg⟩ := call
    obtain ⟨storage, block⟩ := chain
    dsimp only at *
    cases effect with
    | transfer _ transfers =>
        obtain ⟨same, advances, redistributes, _, _, _, _, result⟩ := transfers
        obtain rfl := Option.some.inj (stored.symm.trans same)
        rw [result]
        exact ⟨_, _, rfl, advances, redistributes⟩
    | transferFrom draws transfers =>
        obtain ⟨_, _⟩ := draws
        obtain ⟨same, advances, redistributes, _, _, _, _, result⟩ := transfers
        obtain rfl := Option.some.inj (stored.symm.trans same)
        rw [result]
        exact ⟨_, _, rfl, advances, redistributes⟩
    | mint => cases kept
    | _ => cases changes
  obtain ⟨updated, funds, saved, advances, redistributes⟩ := changing
  obtain ⟨result, returned⟩ := returns_changePeriod.mpr ⟨funds, advances, redistributes, rfl⟩
  have computed : run (changePeriod api call.env current) chain.storage =
      some (.ok (result, updated), _) := returned
  refine ⟨updated, saved, advances, ?_⟩
  simp only [redistributed, changes, stored, computed]
  rw [redistributes.total]
  omega

/-! ## The supply stays -/

/-- The token record states this supply. -/
def SupplyIs (supply : Nat) (storage : Storage) : Prop :=
  ∃ config, storage.tokenInfo = some config ∧ config.totalSupply.toNat = supply

theorem Effect.supplyIs {env : Env} {sender : Addr} {before after : Storage} {msg : ExecuteMsg}
    {supply : Nat} (effect : Effect api env sender before after msg)
    (kept : keepsSupply msg = true) (supplied : SupplyIs supply before) :
    SupplyIs supply after := by
  obtain ⟨config, token, value⟩ := supplied
  obtain ⟨updated, saved, step⟩ := effect.token token
  refine ⟨updated, saved, ?_⟩
  cases step with
  | mint _ _ _ _ => cases kept
  | burn burning _ =>
      exfalso
      unfold burned at burning
      split at burning
      · cases kept
      · cases kept
      · cases burning
  | handOver _ _ _ => exact value
  | keep => exact value

/-! ## Steps -/

/-- An event credits nothing exactly when it does not pay a unit. -/
theorem redistributed_eq_zero_iff {chain next : Chain} {call : Call} {supply : Nat}
    (wellFormed : WellFormed api genesis chain.storage)
    (effect : Effect api call.env call.info.sender chain.storage next.storage call.msg)
    (kept : keepsSupply call.msg = true) (supplied : SupplyIs supply chain.storage) :
    redistributed api ⟨chain, call, next⟩ = 0 ↔ ¬ PaysUnit api supply ⟨chain, call, next⟩ := by
  obtain ⟨config, token, rfl⟩ := supplied
  obtain ⟨current, stored, _⟩ := wellFormed.record
  cases changes : changesPeriod call.msg with
  | false =>
      refine iff_of_true ?_ ?_
      · simp only [redistributed, changes]
      · intro pays
        have changing : changesPeriod call.msg = true := pays.1.1
        rw [changes] at changing
        cases changing
  | true =>
      obtain ⟨updated, _, advances, credited⟩ :=
        redistributed_eq_payout effect changes kept stored
      rw [credited, token, payout_eq_zero_iff, advances.sinkAddress]
      constructor
      · intro small pays
        have valid := pays.1.2 current stored
        have unit := pays.2 current stored _ advances.decayed
        have less := small valid
        omega
      · intro spared valid
        by_contra large
        apply spared
        refine ⟨⟨changes, ?_⟩, ?_⟩
        · intro other otherStored
          obtain rfl := Option.some.inj (stored.symm.trans otherStored)
          exact valid
        · intro other otherStored modifier decayed
          obtain rfl := Option.some.inj (stored.symm.trans otherStored)
          obtain rfl := Option.some.inj (advances.decayed.symm.trans decayed)
          exact Nat.le_of_not_lt large

/-- A payment on top of covered ones is covered only if they all were nothing:
alone it already takes up the whole cover. -/
theorem step_paidOnce_iff {events : List (Event Chain Call)} {chain next : Chain} {call : Call}
    {supply : Nat} (wellFormed : WellFormed api genesis chain.storage)
    (effect : Effect api call.env call.info.sender chain.storage next.storage call.msg)
    (kept : keepsSupply call.msg = true) (supplied : SupplyIs supply chain.storage)
    (paid : PaidOnce api supply events chain) :
    PaidOnce api supply (events ++ [⟨chain, call, next⟩]) next ↔
      ∀ past ∈ events, PaysSink api ⟨chain, call, next⟩ → redistributed api past = 0 := by
  obtain ⟨config, token, rfl⟩ := supplied
  obtain ⟨current, stored, _⟩ := wellFormed.record
  have covered := paid current stored
  have nothing : (events.map (redistributed api)).sum = 0 ↔
      ∀ past ∈ events, redistributed api past = 0 := by
    rw [List.sum_eq_zero_iff]
    simp only [List.mem_map, forall_exists_index, and_imp, forall_apply_eq_imp_iff₂]
  have atUpdated : ∀ updated, next.storage.state = some updated →
      (PaidOnce api config.totalSupply.toNat (events ++ [⟨chain, call, next⟩]) next ↔
        (events.map (redistributed api)).sum + redistributed api ⟨chain, call, next⟩ ≤
          taxOf config.totalSupply.toNat updated.demurrageAmount.toNat) := by
    intro updated saved
    unfold PaidOnce
    rw [List.map_append, List.sum_append, List.map_singleton, List.sum_singleton]
    constructor
    · intro holds
      exact holds updated saved
    · intro bound other otherSaved
      obtain rfl := Option.some.inj (saved.symm.trans otherSaved)
      exact bound
  cases changes : changesPeriod call.msg with
  | false =>
      obtain ⟨updated, saved, recordStep⟩ := effect.record stored
      have sameAmount := recordStep.demurrageAmount_eq changes
      have credited : redistributed api ⟨chain, call, next⟩ = 0 := by
        simp only [redistributed, changes]
      rw [atUpdated updated saved, credited, sameAmount]
      refine iff_of_true covered ?_
      intro past _ pays
      have changing : changesPeriod call.msg = true := pays.1
      rw [changes] at changing
      cases changing
  | true =>
      obtain ⟨updated, saved, advances, credited⟩ :=
        redistributed_eq_payout effect changes kept stored
      have grown : taxOf config.totalSupply.toNat current.demurrageAmount.toNat ≤
          taxOf config.totalSupply.toNat updated.demurrageAmount.toNat :=
        taxOf_mono advances.demurrageAmount_le
      rw [atUpdated updated saved, credited, token, payout_eq, advances.sinkAddress]
      by_cases valid : (api.addrValidate current.sinkAddress).isOk
      · have pays : PaysSink api ⟨chain, call, next⟩ := by
          refine ⟨changes, ?_⟩
          intro other otherStored
          obtain rfl := Option.some.inj (stored.symm.trans otherStored)
          exact valid
        rw [if_pos valid]
        simp only [pays, true_implies]
        rw [← nothing]
        omega
      · rw [if_neg valid]
        refine iff_of_true (covered.trans grown) ?_
        intro past _ pays
        exact absurd (pays.2 current stored) valid

/-! ## Runs -/

theorem run_supplyIs {start chain : Chain} {events : List (Event Chain Call)} {supply : Nat}
    (run : (fixedSupplySystem api genesis).Run start events chain)
    (supplied : SupplyIs supply start.storage) :
    SupplyIs supply chain.storage ∧
      ∀ past ∈ events, redistributed api past = 0 ↔ ¬ PaysUnit api supply past := by
  refine run.history (fun events chain => SupplyIs supply chain.storage ∧
    ∀ past ∈ events, redistributed api past = 0 ↔ ¬ PaysUnit api supply past) ?_ ?_
  · intro _
    exact ⟨supplied, by simp⟩
  · intro events state call next before held step
    obtain ⟨kept, step⟩ := step
    have wellFormed := wellFormed_of_reachable before.unrestrict.reachable
    have effect := effect_of_step step
    refine ⟨Effect.supplyIs effect kept held.1, ?_⟩
    intro past member
    rcases List.mem_append.mp member with earlier | last
    · exact held.2 past earlier
    · rw [List.mem_singleton] at last
      subst last
      exact redistributed_eq_zero_iff wellFormed effect kept held.1

/-- Without mints and burns, the payments to the sink stay covered by the decay
all along a run exactly when no event pays the sink after one that has already
paid it a unit. -/
theorem paidOnce_throughout_iff {start chain : Chain} {events : List (Event Chain Call)}
    {config : TokenInfo} (run : (fixedSupplySystem api genesis).Run start events chain)
    (token : start.storage.tokenInfo = some config) :
    (fixedSupplySystem api genesis).Throughout start events
        (PaidOnce api config.totalSupply.toNat) ↔
      events.Pairwise fun past event =>
        PaysSink api event → ¬ PaysUnit api config.totalSupply.toNat past := by
  rw [← eachStep_earlier_iff_pairwise]
  refine Run.throughout_iff_eachStep ?_ ?_ run
  · intro _ current _
    exact Nat.zero_le _
  · intro events state call next before step paid
    obtain ⟨kept, step⟩ := step
    obtain ⟨supplied, units⟩ := run_supplyIs before ⟨config, token, rfl⟩
    rw [step_paidOnce_iff (wellFormed_of_reachable before.unrestrict.reachable)
      (effect_of_step step) kept supplied paid]
    apply forall₂_congr
    intro past member
    rw [units past member]

/-- The supply at the end of a run without mints and burns is the one at its start. -/
theorem start_supply {start chain : Chain} {events : List (Event Chain Call)} {supply : Nat}
    (run : (fixedSupplySystem api genesis).Run start events chain)
    (final : ∀ config ∈ chain.storage.tokenInfo, config.totalSupply.toNat = supply) :
    SupplyIs supply start.storage := by
  have wellFormed := wellFormed_of_reachable (Run.nil run.unrestrict.initial).reachable
  obtain ⟨config, token⟩ := wellFormed.token
  obtain ⟨last, lastToken, same⟩ := (run_supplyIs run ⟨config, token, rfl⟩).1
  exact ⟨config, token, same.symm.trans (final last lastToken)⟩

/-- A single payment is covered. -/
theorem paidOnce_throughout_single :
    ∃ start events chain,
      (fixedSupplySystem sampleApi (sampleGenesis 1000000 none)).Run start events chain ∧
      events.map Event.label =
        [callAt 180 "alice" (.transfer "bob" 1000), callAt 200 "bob" (.send "carol" 400 [])] ∧
      (fixedSupplySystem sampleApi (sampleGenesis 1000000 none)).Throughout start events
        (PaidOnce sampleApi 1000000) := by
  obtain ⟨start, events, chain, run, labels, passed⟩ :=
    exists_run sampleApi (sampleGenesis 1000000 none)
      [callAt 180 "alice" (.transfer "bob" 1000), callAt 200 "bob" (.send "carol" 400 [])]
      (fun events chain => decide ((∀ event ∈ events, keepsSupply event.label.msg = true) ∧
        (∀ config ∈ chain.storage.tokenInfo, config.totalSupply.toNat = 1000000) ∧
        events.Pairwise fun past event =>
          PaysSink sampleApi event → ¬ PaysUnit sampleApi 1000000 past))
      (by decide +kernel)
  obtain ⟨kept, final, spaced⟩ := of_decide_eq_true passed
  have fixed : (fixedSupplySystem sampleApi (sampleGenesis 1000000 none)).Run start events chain :=
    Run.restrict run kept
  obtain ⟨config, token, supply⟩ := start_supply fixed final
  rw [← supply] at spaced ⊢
  exact ⟨start, events, chain, fixed, labels, (paidOnce_throughout_iff fixed token).mpr spaced⟩

/-- Two transfers in one block, three minutes in, pay 19900 and then 39403 to
the sink; the decay covers 39403. -/
theorem transfers_overpay :
    ∃ start events chain,
      (fixedSupplySystem sampleApi (sampleGenesis 1000000 none)).Run start events chain ∧
      events.map Event.label =
        [callAt 180 "alice" (.transfer "bob" 1000), callAt 180 "alice" (.transfer "bob" 1000)] ∧
      SupplyIs 1000000 start.storage ∧
      ¬ PaidOnce sampleApi 1000000 events chain := by
  obtain ⟨start, events, chain, run, labels, passed⟩ :=
    exists_run sampleApi (sampleGenesis 1000000 none)
      [callAt 180 "alice" (.transfer "bob" 1000), callAt 180 "alice" (.transfer "bob" 1000)]
      (fun events chain => decide ((∀ event ∈ events, keepsSupply event.label.msg = true) ∧
        (∀ config ∈ chain.storage.tokenInfo, config.totalSupply.toNat = 1000000) ∧
        ∀ current ∈ chain.storage.state,
          taxOf 1000000 current.demurrageAmount.toNat <
            (events.map (redistributed sampleApi)).sum))
      (by decide +kernel)
  obtain ⟨kept, final, overpaid⟩ := of_decide_eq_true passed
  have fixed : (fixedSupplySystem sampleApi (sampleGenesis 1000000 none)).Run start events chain :=
    Run.restrict run kept
  obtain ⟨current, stored, _⟩ := (wellFormed_of_reachable run.reachable).record
  refine ⟨start, events, chain, fixed, labels, start_supply fixed final, ?_⟩
  intro paid
  have bounded := paid current stored
  have exceeded := overpaid current stored
  omega

end DemurrageToken.Properties
