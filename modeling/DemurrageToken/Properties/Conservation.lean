import DemurrageToken.Contract.Replay
import DemurrageToken.Spec.Invariants

/-!
Contract: the reported balances against the reported supply.

Owns: what conservation means to the queries, the moves that keep it, and that
a run conserves the tokens exactly as long as it makes only such moves.

Does not own: who may move which balance.
-/

namespace DemurrageToken.Properties

open DemurrageToken.Library
open DemurrageToken.Library.System
open DemurrageToken.Library.Ledger
open DemurrageToken.Contract
open DemurrageToken.Spec

/-! ## The reported total -/

/-- What `query_balance` reports for an address; nothing where it fails. -/
def reportedBalance (api : Api) (storage : Storage) (address : String) : Nat :=
  match queryBalance api storage address with
  | .ok balance => balance.toNat
  | .error _ => 0

/-- The balances of all addresses sum to the supply that `query_token_info`
reports. -/
def Conserved (api : Api) (storage : Storage) : Prop :=
  ∃ info, queryTokenInfo storage = .ok info ∧
    ∑ᶠ address, reportedBalance api storage address = info.totalSupply.toNat

/-- Where every entry belongs to a validated account, the queries report what
the ledger holds. -/
theorem reportedBalance_eq_held {api : Api} {storage : Storage}
    (within : Within storage.balances (Validates api)) (address : String) :
    reportedBalance api storage address = held storage.balances ⟨address⟩ := by
  unfold reportedBalance
  cases valid : api.addrValidate address with
  | ok account =>
      have returned : queryBalance api storage address =
          .ok (storage.balances[account]?.getD 0) :=
        queryBalance_eq_ok.mpr ⟨account, valid, rfl⟩
      rw [returned, ← api.addrValidate_eq valid]
      rfl
  | error error =>
      have failed : queryBalance api storage address = .error error := by
        simp only [queryBalance, valid]
        rfl
      have outside : (⟨address⟩ : Addr) ∉ storage.balances := by
        intro member
        have accepted : api.addrValidate address = .ok ⟨address⟩ := within _ member
        rw [valid] at accepted
        cases accepted
      rw [failed, held_eq_zero_of_notMem outside]

theorem reportedTotal_eq_total {api : Api} {storage : Storage}
    (within : Within storage.balances (Validates api)) :
    ∑ᶠ address, reportedBalance api storage address = total storage.balances := by
  let naming : String ≃ Addr := ⟨Addr.mk, Addr.asStr, fun _ => rfl, fun _ => rfl⟩
  rw [total_eq_finsum, ← finsum_comp_equiv naming]
  exact finsum_congr (reportedBalance_eq_held within)

theorem conserved_iff_total {api : Api} {genesis : Genesis} {storage : Storage}
    {config : TokenInfo} (wellFormed : WellFormed api genesis storage)
    (stored : storage.tokenInfo = some config) :
    Conserved api storage ↔ total storage.balances = config.totalSupply.toNat := by
  unfold Conserved
  rw [reportedTotal_eq_total wellFormed.within]
  simp only [queryTokenInfo, stored, Except.ok.injEq, exists_eq_left']

/-! ## Exact moves -/

/-- A move of `amount` by a message at `now` creates nothing: at the decayed
modifier the decay costs the amount less than one unit, and the tax on `supply`
is less than one unit as well, or has no valid sink to go to. -/
def MovesExactly (api : Api) (now : Timestamp) (storage : Storage) (supply amount : Nat) : Prop :=
  ∀ current ∈ storage.state, ∀ modifier ∈ decayedAmount now current 0,
    amount * (fullAmount - modifier.toNat) < modifier.toNat ∧
      ((api.addrValidate current.sinkAddress).isOk →
        supply * (fullAmount - modifier.toNat) < fullAmount)

/-- The amount a message converts to a base value, and what the message adds to
the supply before. -/
def convertedAmount : ExecuteMsg → Option (U128 × U128)
  | .transfer _ amount | .transferFrom _ _ amount => some (amount, 0)
  | .mint _ amount => some (amount, amount)
  | _ => none

/-- The message of an event keeps the tokens: what it converts moves exactly. -/
def KeepsTokens (api : Api) (event : Event Chain Call) : Prop :=
  ∀ config ∈ event.source.storage.tokenInfo, ∀ moved ∈ convertedAmount event.label.msg,
    MovesExactly api event.label.env.block.time event.source.storage
      (config.totalSupply.toNat + moved.2.toNat) moved.1.toNat

-- The instances are named: the default ones try every word.
instance (api : Api) (now : Timestamp) (storage : Storage) (supply amount : Nat) :
    Decidable (MovesExactly api now storage supply amount) :=
  @Option.decidableForallMem _ _
    (fun current => Option.decidableForallMem (decayedAmount now current 0)) storage.state

instance (api : Api) (event : Event Chain Call) : Decidable (KeepsTokens api event) :=
  @Option.decidableForallMem _ _
    (fun _ => Option.decidableForallMem (convertedAmount event.label.msg))
    event.source.storage.tokenInfo

/-- The move is exact when the payment to the sink and the credited base value
make up for the amount. -/
theorem movesExactly_iff {api : Api} {now : Timestamp} {storage : Storage}
    {current updated : State} {info : TokenInfo} {amount base : U128}
    (stored : storage.state = some current) (advances : Advances now current updated)
    (bounded : current.demurrageAmount.toNat ≤ fullAmount)
    (converted : toBaseAmount amount updated.demurrageAmount = some base) :
    MovesExactly api now storage info.totalSupply.toNat amount.toNat ↔
      payout api (some info) updated + base.toNat = amount.toNat := by
  have stillBounded := advances.demurrageAmount_le.trans bounded
  have atModifier : MovesExactly api now storage info.totalSupply.toNat amount.toNat ↔
      base.toNat = amount.toNat ∧ payout api (some info) updated = 0 := by
    rw [toBaseAmount_eq_self_iff converted stillBounded, payout_eq_zero_iff,
      advances.sinkAddress]
    constructor
    · intro exact
      exact exact current stored _ advances.decayed
    · intro both other otherStored modifier decayed
      obtain rfl := Option.some.inj (stored.symm.trans otherStored)
      obtain rfl := Option.some.inj (advances.decayed.symm.trans decayed)
      exact both
  have notLess := le_toBaseAmount converted stillBounded
  rw [atModifier]
  omega

/-! ## Steps -/

/-- A transfer from a storage where the total is the supply. -/
theorem transfers_conserve_iff {api : Api} {now : Timestamp} {owner : Addr}
    {recipient : String} {amount : U128} {before after : Storage} {current : State}
    {config : TokenInfo}
    (transfers : Transfers api now owner recipient amount before after)
    (stored : before.state = some current)
    (bounded : current.demurrageAmount.toNat ≤ fullAmount)
    (token : before.tokenInfo = some config)
    (conserved : total before.balances = config.totalSupply.toNat) :
    total after.balances = config.totalSupply.toNat ↔
      MovesExactly api now before config.totalSupply.toNat amount.toNat := by
  obtain ⟨updated, saved, advances⟩ := transfers.record stored
  obtain ⟨same, base, sameSaved, converted, moved⟩ := transfers.total
  obtain rfl := Option.some.inj (saved.symm.trans sameSaved)
  rw [movesExactly_iff stored advances bounded converted]
  rw [token] at moved
  omega

theorem keepsTokens_iff {api : Api} {event : Event Chain Call} {config : TokenInfo}
    {amount raise : U128} (token : event.source.storage.tokenInfo = some config)
    (conversion : convertedAmount event.label.msg = some (amount, raise)) :
    KeepsTokens api event ↔
      MovesExactly api event.label.env.block.time event.source.storage
        (config.totalSupply.toNat + raise.toNat) amount.toNat := by
  constructor
  · intro keeps
    exact keeps config token _ conversion
  · intro holds other otherToken moved otherConversion
    obtain rfl := Option.some.inj (token.symm.trans otherToken)
    obtain rfl := Option.some.inj (conversion.symm.trans otherConversion)
    exact holds

theorem keepsTokens_of_none {api : Api} {event : Event Chain Call}
    (nothing : convertedAmount event.label.msg = none) : KeepsTokens api event := by
  intro config _ moved conversion
  rw [nothing] at conversion
  cases conversion

/-- A message that moves no tokens leaves the supply as it was. -/
theorem totalSupply_of_idle {api : Api} {sender : Addr} {config updated : TokenInfo}
    {msg : ExecuteMsg} (step : TokenStep api sender config msg updated)
    (idle : movesTokens msg = false) : updated.totalSupply = config.totalSupply := by
  cases step with
  | mint _ _ _ _ => cases idle
  | burn burning _ =>
      cases msg with
      | burn _ => cases idle
      | burnFrom _ _ => cases idle
      | _ => cases burning
  | handOver _ _ _ => rfl
  | keep => rfl

theorem convertedAmount_of_idle {msg : ExecuteMsg} (idle : movesTokens msg = false) :
    convertedAmount msg = none := by
  cases msg with
  | transfer _ _ => cases idle
  | transferFrom _ _ _ => cases idle
  | mint _ _ => cases idle
  | _ => rfl

/-- One step from a well-formed chain where the total is the supply. -/
theorem step_conserves_iff {api : Api} {genesis : Genesis} {chain next : Chain} {call : Call}
    {config updatedConfig : TokenInfo} (wellFormed : WellFormed api genesis chain.storage)
    (effect : Effect api call.env call.info.sender chain.storage next.storage call.msg)
    (token : chain.storage.tokenInfo = some config)
    (updatedToken : next.storage.tokenInfo = some updatedConfig)
    (conserved : total chain.storage.balances = config.totalSupply.toNat) :
    total next.storage.balances = updatedConfig.totalSupply.toNat ↔
      KeepsTokens api ⟨chain, call, next⟩ := by
  obtain ⟨current, stored, kept⟩ := wellFormed.record
  obtain ⟨env, info, msg⟩ := call
  obtain ⟨storage, block⟩ := chain
  obtain ⟨after, nextBlock⟩ := next
  dsimp only at *
  by_cases idle : movesTokens msg = false
  · obtain ⟨_, saved, step⟩ := effect.token token
    cases updatedToken.symm.trans saved
    rw [effect.balances_eq idle, totalSupply_of_idle step idle]
    exact iff_of_true conserved (keepsTokens_of_none (convertedAmount_of_idle idle))
  cases effect with
  | transfer _ transfers =>
      rw [transfers.tokenInfo, token] at updatedToken
      cases updatedToken
      rw [keepsTokens_iff token rfl]
      exact transfers_conserve_iff transfers stored kept.bounded token conserved
  | transferFrom draws transfers =>
      obtain ⟨_, _⟩ := draws
      rw [transfers.tokenInfo, token] at updatedToken
      cases updatedToken
      have afterDraw := transfers_conserve_iff transfers stored kept.bounded token conserved
      rw [keepsTokens_iff token rfl]
      exact afterDraw
  | @mint _ amount totalSupply _ _ _ _ _ _ _ _ _ sameToken _ _ raised _ sameStored advances
      redistributes converted _ credits result =>
      obtain rfl := Option.some.inj (token.symm.trans sameToken)
      obtain rfl := Option.some.inj (stored.symm.trans sameStored)
      subst result
      cases updatedToken
      have moves := @movesExactly_iff api _ _ _ _ { config with totalSupply } _ _ stored advances
        kept.bounded converted
      rw [keepsTokens_iff token rfl]
      dsimp only at *
      rw [raised, moves]
      have paid := redistributes.total
      have given := credits.total
      omega
  | burn _ burns =>
      obtain ⟨lowered, saved, supply, difference, rfl⟩ := burns.token token
      cases updatedToken.symm.trans saved
      have moved := burns.total
      refine iff_of_true ?_ (keepsTokens_of_none rfl)
      dsimp only at *
      omega
  | burnFrom draws burns =>
      obtain ⟨_, _⟩ := draws
      obtain ⟨lowered, saved, supply, difference, rfl⟩ := burns.token token
      cases updatedToken.symm.trans saved
      have moved := burns.total
      refine iff_of_true ?_ (keepsTokens_of_none rfl)
      dsimp only at *
      omega
  | send _ sends =>
      rw [sends.frame] at updatedToken
      cases token.symm.trans updatedToken
      exact iff_of_true (sends.total.trans conserved) (keepsTokens_of_none rfl)
  | sendFrom draws sends =>
      obtain ⟨_, _⟩ := draws
      rw [sends.frame] at updatedToken
      cases token.symm.trans updatedToken
      exact iff_of_true (sends.total.trans conserved) (keepsTokens_of_none rfl)
  | _ => exact absurd rfl idle

/-! ## Runs -/

/-- Tokens are conserved all along a run exactly when every transfer and mint
of the run moves exactly: it is made before the decay is worth a unit of the
amount, and before the tax on the supply is worth a unit or while the sink is
invalid. -/
theorem conserved_throughout_iff {api : Api} {genesis : Genesis} {start chain : Chain}
    {events : List (Event Chain Call)}
    (run : (tokenSystem api genesis).Run start events chain) :
    (tokenSystem api genesis).Throughout start events
        (fun _ visited => Conserved api visited.storage) ↔
      ∀ event ∈ events, KeepsTokens api event := by
  rw [← eachStep_iff_forall_mem]
  refine Run.throughout_iff_eachStep ?_ ?_ run
  · intro initial
    have instantiates := instantiates_of_init initial
    have wellFormed := instantiates.wellFormed
    obtain ⟨_, supplied, _, _, _, result⟩ := instantiates
    have token := congrArg Storage.tokenInfo result
    rw [conserved_iff_total wellFormed token, result]
    exact supplied
  · intro earlier state call next before step conserved
    have effect := effect_of_step step
    have wellFormed := wellFormed_of_reachable before.reachable
    obtain ⟨config, token⟩ := wellFormed.token
    obtain ⟨updatedConfig, updatedToken, _⟩ := effect.token token
    rw [conserved_iff_total (effect.wellFormed wellFormed) updatedToken]
    exact step_conserves_iff wellFormed effect token updatedToken
      ((conserved_iff_total wellFormed token).mp conserved)

/-- A run that stays within the first minute conserves the tokens throughout. -/
theorem conserved_throughout_first_minute :
    ∃ start events chain,
      (tokenSystem sampleApi (sampleGenesis 1000000 none)).Run start events chain ∧
      events.map Event.label =
        [callAt 59 "alice" (.transfer "bob" 1000), callAt 200 "bob" (.send "carol" 400 [])] ∧
      (tokenSystem sampleApi (sampleGenesis 1000000 none)).Throughout start events
        (fun _ visited => Conserved sampleApi visited.storage) := by
  obtain ⟨start, events, chain, run, labels, passed⟩ :=
    exists_run sampleApi (sampleGenesis 1000000 none)
      [callAt 59 "alice" (.transfer "bob" 1000), callAt 200 "bob" (.send "carol" 400 [])]
      (fun events _ => decide (∀ event ∈ events, KeepsTokens sampleApi event))
      (by decide +kernel)
  have keeps := of_decide_eq_true passed
  exact ⟨start, events, chain, run, labels, (conserved_throughout_iff run).mpr keeps⟩

/-- Three minutes after instantiation, one transfer of a thousand credits 1020
to the recipient and 19900 to the sink. -/
theorem transfer_creates_tokens :
    ∃ start events chain,
      (tokenSystem sampleApi (sampleGenesis 1000000 none)).Run start events chain ∧
      events.map Event.label = [callAt 180 "alice" (.transfer "bob" 1000)] ∧
      ¬ Conserved sampleApi chain.storage := by
  obtain ⟨start, events, chain, run, labels, passed⟩ :=
    exists_run sampleApi (sampleGenesis 1000000 none)
      [callAt 180 "alice" (.transfer "bob" 1000)]
      (fun _ chain => decide (
        ∀ config ∈ chain.storage.tokenInfo,
          total chain.storage.balances ≠ config.totalSupply.toNat))
      (by decide)
  have differs := of_decide_eq_true passed
  have wellFormed := wellFormed_of_reachable run.reachable
  obtain ⟨config, token⟩ := wellFormed.token
  have distinct := differs config token
  refine ⟨start, events, chain, run, labels, ?_⟩
  intro conserved
  have balanced := (conserved_iff_total wellFormed token).mp conserved
  exact distinct balanced

end DemurrageToken.Properties
