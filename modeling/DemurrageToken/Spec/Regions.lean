import DemurrageToken.Spec.Effects

/-!
Contract: what one message can do to each region of the storage.

Owns: the possible changes of the demurrage record, of the token record and of
the allowances, each with the messages that make them.

Does not own: the balances, which the relations of the messages describe.
-/

namespace DemurrageToken.Spec

open DemurrageToken.Library
open DemurrageToken.Library.Ledger
open DemurrageToken.Contract

/-! ## Kinds of messages -/

/-- The messages that run `change_period`. -/
def changesPeriod : ExecuteMsg → Bool
  | .transfer .. | .transferFrom .. | .mint .. => true
  | _ => false

/-- The messages that set a field of the demurrage record. -/
def setsPolicy : ExecuteMsg → Bool
  | .changeTaxLevel .. | .changeSinkAddress .. => true
  | _ => false

/-- The messages with which an owner sets an allowance. -/
def setsAllowance : ExecuteMsg → Bool
  | .increaseAllowance .. | .decreaseAllowance .. => true
  | _ => false

/-- The owner and the amount of a delegated message. -/
def delegation : ExecuteMsg → Option (String × U128)
  | .transferFrom owner _ amount | .sendFrom owner _ amount _ | .burnFrom owner amount =>
      some (owner, amount)
  | _ => none

/-- The amount a message burns. -/
def burned : ExecuteMsg → Option U128
  | .burn amount | .burnFrom _ amount => some amount
  | _ => none

variable {api : Api} {env : Env} {sender : Addr} {before after : Storage} {msg : ExecuteMsg}

/-! ## Frames of the movements -/

theorem Transfers.tokenInfo {now : Timestamp} {owner : Addr} {recipient : String}
    {amount : U128} (transfers : Transfers api now owner recipient amount before after) :
    after.tokenInfo = before.tokenInfo := by
  obtain ⟨_, _, _, _, _, _, _, rfl⟩ := transfers
  rfl

theorem Transfers.allowances {now : Timestamp} {owner : Addr} {recipient : String}
    {amount : U128} (transfers : Transfers api now owner recipient amount before after) :
    after.allowances = before.allowances := by
  obtain ⟨_, _, _, _, _, _, _, rfl⟩ := transfers
  rfl

theorem Sends.frame {owner : Addr} {contract : String} {amount : U128}
    (sends : Sends api owner contract amount before after) :
    after = { before with balances := after.balances } := by
  obtain ⟨_, _, _, rfl⟩ := sends
  rfl

theorem BurnsTokens.frame {owner : Addr} {amount : U128}
    (burns : BurnsTokens owner amount before after) :
    after = { before with tokenInfo := after.tokenInfo, balances := after.balances } := by
  obtain ⟨_, _, _, rfl⟩ := burns
  rfl

/-! ## The demurrage record -/

/-- The ways a message can change the demurrage record. -/
inductive RecordStep (now : Timestamp) (current : State) : ExecuteMsg → State → Prop where
  | advance {msg : ExecuteMsg} {updated : State}
      (changes : changesPeriod msg = true)
      (advances : Advances now current updated) :
      RecordStep now current msg updated
  | sink {address : String} :
      RecordStep now current (.changeSinkAddress address) { current with sinkAddress := address }
  | tax {amount : U128} :
      RecordStep now current (.changeTaxLevel amount) { current with taxLevel := amount }
  | keep {msg : ExecuteMsg}
      (unchanged : changesPeriod msg = false)
      (noPolicy : setsPolicy msg = false) :
      RecordStep now current msg current

theorem Transfers.record {now : Timestamp} {owner : Addr} {recipient : String} {amount : U128}
    {current : State} (transfers : Transfers api now owner recipient amount before after)
    (stored : before.state = some current) :
    ∃ updated, after.state = some updated ∧ Advances now current updated := by
  obtain ⟨same, advances, _, _, _, _, _, rfl⟩ := transfers
  obtain rfl := Option.some.inj (stored.symm.trans same)
  exact ⟨_, rfl, advances⟩

theorem Effect.record {current : State} (effect : Effect api env sender before after msg)
    (stored : before.state = some current) :
    ∃ updated, after.state = some updated ∧ RecordStep env.block.time current msg updated := by
  cases effect with
  | transfer _ transfers =>
      obtain ⟨updated, saved, advances⟩ := transfers.record stored
      exact ⟨updated, saved, .advance rfl advances⟩
  | transferFrom draws transfers =>
      obtain ⟨_, _⟩ := draws
      obtain ⟨updated, saved, advances⟩ := transfers.record stored
      exact ⟨updated, saved, .advance rfl advances⟩
  | mint _ _ _ _ _ _ same advances _ _ _ _ result =>
      obtain rfl := Option.some.inj (stored.symm.trans same)
      rw [result]
      exact ⟨_, rfl, .advance rfl advances⟩
  | changeSinkAddress same result =>
      obtain rfl := Option.some.inj (stored.symm.trans same)
      rw [result]
      exact ⟨_, rfl, .sink⟩
  | changeTaxLevel same result =>
      obtain rfl := Option.some.inj (stored.symm.trans same)
      rw [result]
      exact ⟨_, rfl, .tax⟩
  | burn _ burns =>
      rw [burns.frame]
      exact ⟨current, stored, .keep rfl rfl⟩
  | send _ sends =>
      rw [sends.frame]
      exact ⟨current, stored, .keep rfl rfl⟩
  | burnFrom draws burns =>
      obtain ⟨_, _⟩ := draws
      rw [burns.frame]
      exact ⟨current, stored, .keep rfl rfl⟩
  | sendFrom draws sends =>
      obtain ⟨_, _⟩ := draws
      rw [sends.frame]
      exact ⟨current, stored, .keep rfl rfl⟩
  | increaseAllowance _ _ _ _ _ result =>
      rw [result]
      exact ⟨current, stored, .keep rfl rfl⟩
  | decreaseAllowance _ _ _ result =>
      rw [result]
      exact ⟨current, stored, .keep rfl rfl⟩
  | updateMinter _ _ _ _ result =>
      rw [result]
      exact ⟨current, stored, .keep rfl rfl⟩

/-- The period count advances by one for each period change. -/
theorem RecordStep.currentPeriod_eq {now : Timestamp} {current updated : State}
    (step : RecordStep now current msg updated) :
    updated.currentPeriod.toNat =
      current.currentPeriod.toNat + if changesPeriod msg then 1 else 0 := by
  cases step with
  | advance changes advances =>
      rw [if_pos changes]
      exact advances.counted.symm
  | sink => rfl
  | tax => rfl
  | keep unchanged _ => simp [unchanged]

/-- A period change needs a demurrage record. -/
theorem Effect.stored (effect : Effect api env sender before after msg)
    (changes : changesPeriod msg = true) : ∃ current, before.state = some current := by
  cases effect with
  | transfer _ transfers =>
      obtain ⟨stored⟩ := transfers
      exact ⟨_, stored⟩
  | transferFrom draws transfers =>
      obtain ⟨_, _⟩ := draws
      obtain ⟨stored⟩ := transfers
      exact ⟨_, stored⟩
  | mint _ _ _ _ _ _ stored => exact ⟨_, stored⟩
  | _ => cases changes

/-- What a period change does to the records, whichever message makes it: the
demurrage record advances, the sink is paid the tax on the supply that the token
record is left with, and an amount is converted at the new modifier. -/
structure PeriodChange (api : Api) (now : Timestamp) (before after : Storage)
    (current updated : State) (info : TokenInfo) : Prop where
  stored : before.state = some current
  saved : after.state = some updated
  token : after.tokenInfo = some info
  advances : Advances now current updated
  redistributes : ∃ funds, Redistributes api (some info) updated before.balances funds
  converted : ∃ amount base, toBaseAmount amount updated.demurrageAmount = some base

theorem Transfers.periodChange {now : Timestamp} {owner : Addr} {recipient : String}
    {amount : U128} {config : TokenInfo}
    (transfers : Transfers api now owner recipient amount before after)
    (token : before.tokenInfo = some config) :
    ∃ current updated, PeriodChange api now before after current updated config := by
  obtain ⟨stored, advances, redistributes, converted, _, _, _, rfl⟩ := transfers
  rw [token] at redistributes
  exact ⟨_, _, stored, rfl, token, advances, ⟨_, redistributes⟩, ⟨_, _, converted⟩⟩

theorem Effect.periodChange {config : TokenInfo} (effect : Effect api env sender before after msg)
    (token : before.tokenInfo = some config) (changes : changesPeriod msg = true) :
    ∃ current updated info,
      PeriodChange api env.block.time before after current updated info := by
  cases effect with
  | transfer _ transfers =>
      obtain ⟨current, updated, change⟩ := transfers.periodChange token
      exact ⟨current, updated, config, change⟩
  | transferFrom draws transfers =>
      obtain ⟨_, _⟩ := draws
      obtain ⟨current, updated, change⟩ := transfers.periodChange token
      exact ⟨current, updated, config, change.stored, change.saved, change.token,
        change.advances, change.redistributes, change.converted⟩
  | mint _ _ _ _ _ _ stored advances redistributes converted _ _ result =>
      rw [result]
      exact ⟨_, _, _, stored, rfl, rfl, advances, ⟨_, redistributes⟩, ⟨_, _, converted⟩⟩
  | _ => cases changes

/-- Only a period change moves the modifier. -/
theorem RecordStep.demurrageAmount_eq {now : Timestamp} {current updated : State}
    (step : RecordStep now current msg updated) (unchanged : changesPeriod msg = false) :
    updated.demurrageAmount = current.demurrageAmount := by
  cases step with
  | advance changes _ =>
      rw [unchanged] at changes
      cases changes
  | sink => rfl
  | tax => rfl
  | keep _ _ => rfl

/-! ## The token record -/

/-- The ways a message from `sender` can change the token record. -/
inductive TokenStep (api : Api) (sender : Addr) (config : TokenInfo) :
    ExecuteMsg → TokenInfo → Prop where
  | mint {recipient : String} {amount totalSupply : U128} {role : MinterData}
      (minted : config.mint = some role)
      (authorised : role.minter = sender)
      (raised : config.totalSupply.toNat + amount.toNat = totalSupply.toNat)
      (capped : exceeds totalSupply config.getCap = false) :
      TokenStep api sender config (.mint recipient amount) { config with totalSupply }
  | burn {msg : ExecuteMsg} {amount : U128} {lowered : TokenInfo}
      (burning : burned msg = some amount)
      (burns : Burns amount config lowered) :
      TokenStep api sender config msg lowered
  | handOver {newMinter : String} {minter : Addr} {role : MinterData}
      (minted : config.mint = some role)
      (authorised : role.minter = sender)
      (valid : api.addrValidate newMinter = .ok minter) :
      TokenStep api sender config (.updateMinter newMinter)
        { config with mint := some { minter, cap := role.cap } }
  | keep {msg : ExecuteMsg} : TokenStep api sender config msg config

theorem BurnsTokens.token {owner : Addr} {amount : U128} {config : TokenInfo}
    (burns : BurnsTokens owner amount before after) (stored : before.tokenInfo = some config) :
    ∃ lowered, after.tokenInfo = some lowered ∧ Burns amount config lowered := by
  obtain ⟨_, same, burns, rfl⟩ := burns
  obtain rfl := Option.some.inj (stored.symm.trans same)
  exact ⟨_, rfl, burns⟩

theorem Effect.token {config : TokenInfo} (effect : Effect api env sender before after msg)
    (stored : before.tokenInfo = some config) :
    ∃ updated, after.tokenInfo = some updated ∧ TokenStep api sender config msg updated := by
  cases effect with
  | mint _ same minted authorised raised capped _ _ _ _ _ _ result =>
      obtain rfl := Option.some.inj (stored.symm.trans same)
      rw [result]
      exact ⟨_, rfl, .mint minted authorised raised capped⟩
  | updateMinter same minted authorised valid result =>
      obtain rfl := Option.some.inj (stored.symm.trans same)
      rw [result]
      exact ⟨_, rfl, .handOver minted authorised valid⟩
  | burn _ burns =>
      obtain ⟨lowered, saved, burns⟩ := burns.token stored
      exact ⟨lowered, saved, .burn rfl burns⟩
  | burnFrom draws burns =>
      obtain ⟨_, _⟩ := draws
      obtain ⟨lowered, saved, burns⟩ := burns.token stored
      exact ⟨lowered, saved, .burn rfl burns⟩
  | transfer _ transfers =>
      rw [transfers.tokenInfo]
      exact ⟨config, stored, .keep⟩
  | transferFrom draws transfers =>
      obtain ⟨_, _⟩ := draws
      rw [transfers.tokenInfo]
      exact ⟨config, stored, .keep⟩
  | send _ sends =>
      rw [sends.frame]
      exact ⟨config, stored, .keep⟩
  | sendFrom draws sends =>
      obtain ⟨_, _⟩ := draws
      rw [sends.frame]
      exact ⟨config, stored, .keep⟩
  | increaseAllowance _ _ _ _ _ result =>
      rw [result]
      exact ⟨config, stored, .keep⟩
  | decreaseAllowance _ _ _ result =>
      rw [result]
      exact ⟨config, stored, .keep⟩
  | changeSinkAddress _ result =>
      rw [result]
      exact ⟨config, stored, .keep⟩
  | changeTaxLevel _ result =>
      rw [result]
      exact ⟨config, stored, .keep⟩

/-! ## The allowances -/

/-- The ways a message from `sender` can change the allowances. -/
inductive AllowanceStep (api : Api) (block : BlockInfo) (sender : Addr) (record : Option State)
    (before : Allowances) : ExecuteMsg → Allowances → Prop where
  | grant {spender : String} {amount baseValue : U128} {expires : Option Expiration}
      {spenderAddr : Addr} {current : State} {granted : Allowances}
      (valid : api.addrValidate spender = .ok spenderAddr)
      (distinct : spenderAddr ≠ sender)
      (stored : record = some current)
      (converted : toBaseAmount amount current.demurrageAmount = some baseValue)
      (grants : Grants (sender, spenderAddr) (amount.toNat + baseValue.toNat) expires
        before granted) :
      AllowanceStep api block sender record before (.increaseAllowance spender amount expires)
        granted
  | lower {spender : String} {amount : U128} {expires : Option Expiration}
      {spenderAddr : Addr} {lowered : Allowances}
      (valid : api.addrValidate spender = .ok spenderAddr)
      (distinct : spenderAddr ≠ sender)
      (lowers : Lowers (sender, spenderAddr) amount expires before lowered) :
      AllowanceStep api block sender record before (.decreaseAllowance spender amount expires)
        lowered
  | draw {msg : ExecuteMsg} {owner : String} {ownerAddr : Addr} {amount : U128}
      {drawn : Allowances}
      (delegated : delegation msg = some (owner, amount))
      (valid : api.addrValidate owner = .ok ownerAddr)
      (draws : Draws block (ownerAddr, sender) amount before drawn) :
      AllowanceStep api block sender record before msg drawn
  | keep {msg : ExecuteMsg}
      (direct : delegation msg = none)
      (noOwner : setsAllowance msg = false) :
      AllowanceStep api block sender record before msg before

theorem Effect.allowances (effect : Effect api env sender before after msg) :
    AllowanceStep api env.block sender before.state before.allowances msg after.allowances := by
  cases effect with
  | increaseAllowance valid distinct stored converted grants result =>
      rw [result]
      exact .grant valid distinct stored converted grants
  | decreaseAllowance valid distinct lowers result =>
      rw [result]
      exact .lower valid distinct lowers
  | transferFrom draws transfers =>
      obtain ⟨valid, draws⟩ := draws
      rw [transfers.allowances]
      exact .draw rfl valid draws
  | sendFrom draws sends =>
      obtain ⟨valid, draws⟩ := draws
      rw [sends.frame]
      exact .draw rfl valid draws
  | burnFrom draws burns =>
      obtain ⟨valid, draws⟩ := draws
      rw [burns.frame]
      exact .draw rfl valid draws
  | transfer _ transfers =>
      rw [transfers.allowances]
      exact .keep rfl rfl
  | send _ sends =>
      rw [sends.frame]
      exact .keep rfl rfl
  | burn _ burns =>
      rw [burns.frame]
      exact .keep rfl rfl
  | mint _ _ _ _ _ _ _ _ _ _ _ _ result =>
      rw [result]
      exact .keep rfl rfl
  | updateMinter _ _ _ _ result =>
      rw [result]
      exact .keep rfl rfl
  | changeSinkAddress _ result =>
      rw [result]
      exact .keep rfl rfl
  | changeTaxLevel _ result =>
      rw [result]
      exact .keep rfl rfl

end DemurrageToken.Spec
