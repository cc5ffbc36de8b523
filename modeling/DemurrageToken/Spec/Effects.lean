import DemurrageToken.Contract.System
import DemurrageToken.Spec.PeriodChange

/-!
Contract: the execute messages as a relation between storages.

`Effect` lists, message by message, what a successful call requires and what
it leaves behind. A delegated message is its direct counterpart after a draw on
the allowance, so the two share one relation.

Owns: the relation, and the equivalence with `execute`.

Does not own: properties of runs.
-/

namespace DemurrageToken.Spec

open DemurrageToken.Library
open DemurrageToken.Library.Handler
open DemurrageToken.Library.Ledger
open DemurrageToken.Contract

/-! ## The three movements out of an account -/

/-- `owner` transfers `amount`: after the period change the amount is debited,
and its base value at the decayed modifier is credited. -/
inductive Transfers (api : Api) (now : Timestamp) (owner : Addr) (recipient : String)
    (amount : U128) (before after : Storage) : Prop where
  | intro {current updated : State} {base : U128} {rcptAddr : Addr}
      {funds debited credited : Balances}
      (stored : before.state = some current)
      (advances : Advances now current updated)
      (redistributes : Redistributes api before.tokenInfo updated before.balances funds)
      (converted : toBaseAmount amount updated.demurrageAmount = some base)
      (valid : api.addrValidate recipient = .ok rcptAddr)
      (debits : Debits funds owner amount.toNat debited)
      (credits : Credits debited rcptAddr base.toNat credited)
      (result : after = { before with state := some updated, balances := credited })

/-- `owner` sends `amount` to a contract; the demurrage record is not involved. -/
inductive Sends (api : Api) (owner : Addr) (contract : String) (amount : U128)
    (before after : Storage) : Prop where
  | intro {rcptAddr : Addr} {debited credited : Balances}
      (valid : api.addrValidate contract = .ok rcptAddr)
      (debits : Debits before.balances owner amount.toNat debited)
      (credits : Credits debited rcptAddr amount.toNat credited)
      (result : after = { before with balances := credited })

/-- `owner` burns `amount`. -/
inductive BurnsTokens (owner : Addr) (amount : U128) (before after : Storage) : Prop where
  | intro {info lowered : TokenInfo} {debited : Balances}
      (debits : Debits before.balances owner amount.toNat debited)
      (token : before.tokenInfo = some info)
      (burns : Burns amount info lowered)
      (result : after = { before with tokenInfo := some lowered, balances := debited })

/-- `spender` draws `amount` from the allowance of `owner`. -/
inductive DrawsFrom (api : Api) (block : BlockInfo) (owner : String) (spender : Addr)
    (amount : U128) (before : Storage) : Addr → Storage → Prop where
  | intro {ownerAddr : Addr} {drawn : Allowances}
      (valid : api.addrValidate owner = .ok ownerAddr)
      (draws : Draws block (ownerAddr, spender) amount before.allowances drawn) :
      DrawsFrom api block owner spender amount before ownerAddr
        { before with allowances := drawn }

/-! ## The messages -/

/-- What a successful message does, by message. -/
inductive Effect (api : Api) (env : Env) (sender : Addr) (before after : Storage) :
    ExecuteMsg → Prop where
  | transfer {recipient : String} {amount : U128}
      (nonzero : amount ≠ 0)
      (transfers : Transfers api env.block.time sender recipient amount before after) :
      Effect api env sender before after (.transfer recipient amount)
  | burn {amount : U128}
      (nonzero : amount ≠ 0)
      (burns : BurnsTokens sender amount before after) :
      Effect api env sender before after (.burn amount)
  | send {contract : String} {amount : U128} {msg : Binary}
      (nonzero : amount ≠ 0)
      (sends : Sends api sender contract amount before after) :
      Effect api env sender before after (.send contract amount msg)
  | increaseAllowance {spender : String} {amount baseValue : U128}
      {expires : Option Expiration} {spenderAddr : Addr} {current : State}
      {granted : Allowances}
      (valid : api.addrValidate spender = .ok spenderAddr)
      (distinct : spenderAddr ≠ sender)
      (stored : before.state = some current)
      (converted : toBaseAmount amount current.demurrageAmount = some baseValue)
      (grants : Grants (sender, spenderAddr) (amount.toNat + baseValue.toNat) expires
        before.allowances granted)
      (result : after = { before with allowances := granted }) :
      Effect api env sender before after (.increaseAllowance spender amount expires)
  | decreaseAllowance {spender : String} {amount : U128} {expires : Option Expiration}
      {spenderAddr : Addr} {lowered : Allowances}
      (valid : api.addrValidate spender = .ok spenderAddr)
      (distinct : spenderAddr ≠ sender)
      (lowers : Lowers (sender, spenderAddr) amount expires before.allowances lowered)
      (result : after = { before with allowances := lowered }) :
      Effect api env sender before after (.decreaseAllowance spender amount expires)
  | transferFrom {owner recipient : String} {amount : U128} {ownerAddr : Addr}
      {drawn : Storage}
      (draws : DrawsFrom api env.block owner sender amount before ownerAddr drawn)
      (transfers : Transfers api env.block.time ownerAddr recipient amount drawn after) :
      Effect api env sender before after (.transferFrom owner recipient amount)
  | sendFrom {owner contract : String} {amount : U128} {msg : Binary} {ownerAddr : Addr}
      {drawn : Storage}
      (draws : DrawsFrom api env.block owner sender amount before ownerAddr drawn)
      (sends : Sends api ownerAddr contract amount drawn after) :
      Effect api env sender before after (.sendFrom owner contract amount msg)
  | burnFrom {owner : String} {amount : U128} {ownerAddr : Addr} {drawn : Storage}
      (draws : DrawsFrom api env.block owner sender amount before ownerAddr drawn)
      (burns : BurnsTokens ownerAddr amount drawn after) :
      Effect api env sender before after (.burnFrom owner amount)
  | mint {recipient : String} {amount totalSupply base : U128} {config : TokenInfo}
      {role : MinterData} {current updated : State} {rcptAddr : Addr}
      {funds credited : Balances}
      (nonzero : amount ≠ 0)
      (token : before.tokenInfo = some config)
      (minted : config.mint = some role)
      (authorised : role.minter = sender)
      (raised : config.totalSupply.toNat + amount.toNat = totalSupply.toNat)
      (capped : exceeds totalSupply config.getCap = false)
      (stored : before.state = some current)
      (advances : Advances env.block.time current updated)
      (redistributes : Redistributes api (some { config with totalSupply }) updated
        before.balances funds)
      (converted : toBaseAmount amount updated.demurrageAmount = some base)
      (valid : api.addrValidate recipient = .ok rcptAddr)
      (credits : Credits funds rcptAddr base.toNat credited)
      (result : after = { before with
        tokenInfo := some { config with totalSupply }
        state := some updated
        balances := credited }) :
      Effect api env sender before after (.mint recipient amount)
  | updateMinter {newMinter : String} {config : TokenInfo} {role : MinterData} {minter : Addr}
      (token : before.tokenInfo = some config)
      (minted : config.mint = some role)
      (authorised : role.minter = sender)
      (valid : api.addrValidate newMinter = .ok minter)
      (result : after = { before with
        tokenInfo := some { config with mint := some { minter, cap := role.cap } } }) :
      Effect api env sender before after (.updateMinter newMinter)
  | changeSinkAddress {address : String} {current : State}
      (stored : before.state = some current)
      (result : after = { before with state := some { current with sinkAddress := address } }) :
      Effect api env sender before after (.changeSinkAddress address)
  | changeTaxLevel {amount : U128} {current : State}
      (stored : before.state = some current)
      (result : after = { before with state := some { current with taxLevel := amount } }) :
      Effect api env sender before after (.changeTaxLevel amount)

/-! ## The equivalence, handler by handler -/

variable {api : Api} {env : Env} {info : MessageInfo} {before after : Storage}

theorem executeTransfer_iff {recipient : String} {amount : U128} :
    (∃ response, Returns (executeTransfer api env info recipient amount) before response after) ↔
      amount ≠ 0 ∧ Transfers api env.block.time info.sender recipient amount before after := by
  simp only [executeTransfer, returns_bind, Prod.exists, Item.returns_mayLoad, returns_orThrow,
    returns_checked, returns_reject, returns_addrValidate, returns_debit, returns_credit,
    returns_pure, and_assoc, exists_and_left, exists_eq_left', exists_const]
  constructor
  · intro executed
    rcases executed with ⟨_, current, stored, result, updated, _, changed, base, converted,
      nonzero, rcptAddr, valid, rest, debit, sum, credit, _, same⟩
    rcases returns_changePeriod.mp ⟨result, changed⟩ with ⟨funds, advances, redistributes, rfl⟩
    exact ⟨nonzero, .intro stored advances redistributes converted valid ⟨rest, debit, rfl⟩
      ⟨sum, credit, rfl⟩ same.symm⟩
  · intro transferred
    rcases transferred with ⟨nonzero, stored, advances, redistributes, converted, valid,
      ⟨rest, debit, rfl⟩, ⟨sum, credit, rfl⟩, same⟩
    rcases returns_changePeriod.mpr ⟨_, advances, redistributes, rfl⟩ with ⟨result, changed⟩
    exact ⟨_, _, stored, result, _, _, changed, _, converted, nonzero, _, valid, rest, debit,
      sum, credit, rfl, same.symm⟩

theorem executeBurn_iff {amount : U128} :
    (∃ response, Returns (executeBurn info amount) before response after) ↔
      amount ≠ 0 ∧ BurnsTokens info.sender amount before after := by
  simp only [executeBurn, returns_bind, returns_reject, returns_debit, returns_updateSupply,
    returns_pure, and_assoc, exists_and_left, exists_eq_left', exists_const]
  constructor
  · intro executed
    rcases executed with ⟨nonzero, _, rest, debit, lowered, _, ⟨config, token, burns, rfl⟩, _, same⟩
    exact ⟨nonzero, .intro ⟨rest, debit, rfl⟩ token burns same.symm⟩
  · intro burned
    rcases burned with ⟨nonzero, ⟨rest, debit, rfl⟩, token, burns, same⟩
    exact ⟨nonzero, _, rest, debit, _, _, ⟨_, token, burns, rfl⟩, rfl, same.symm⟩

theorem executeSend_iff {contract : String} {amount : U128} {msg : Binary} :
    (∃ response, Returns (executeSend api info contract amount msg) before response after) ↔
      amount ≠ 0 ∧ Sends api info.sender contract amount before after := by
  simp only [executeSend, returns_bind, returns_reject, returns_addrValidate, returns_debit,
    returns_credit, returns_pure, and_assoc, exists_and_left, exists_eq_left', exists_const]
  constructor
  · intro executed
    rcases executed with ⟨nonzero, _, rcptAddr, valid, rest, debit, sum, credit, _, same⟩
    exact ⟨nonzero, .intro valid ⟨rest, debit, rfl⟩ ⟨sum, credit, rfl⟩ same.symm⟩
  · intro sent
    rcases sent with ⟨nonzero, valid, ⟨rest, debit, rfl⟩, ⟨sum, credit, rfl⟩, same⟩
    exact ⟨nonzero, _, _, valid, rest, debit, sum, credit, rfl, same.symm⟩

theorem executeTransferFrom_iff {owner recipient : String} {amount : U128} :
    (∃ response, Returns (executeTransferFrom api env info owner recipient amount) before
        response after) ↔
      ∃ ownerAddr drawn,
        DrawsFrom api env.block owner info.sender amount before ownerAddr drawn ∧
        Transfers api env.block.time ownerAddr recipient amount drawn after := by
  simp only [executeTransferFrom, returns_bind, Prod.exists, Item.returns_mayLoad,
    returns_orThrow, returns_checked, returns_addrValidate, returns_debit, returns_credit,
    returns_pure, and_assoc, exists_and_left, exists_eq_left']
  constructor
  · intro executed
    rcases executed with ⟨_, rcptAddr, valid, ownerAddr, ownerValid, left, _, deducted, current,
      stored, result, updated, _, changed, base, converted, rest, debit, sum, credit, _, same⟩
    rcases returns_deductAllowance.mp ⟨left, deducted⟩ with ⟨drawn, draws, rfl⟩
    rcases returns_changePeriod.mp ⟨result, changed⟩ with ⟨funds, advances, redistributes, rfl⟩
    exact ⟨ownerAddr, _, .intro ownerValid draws,
      .intro stored advances redistributes converted valid ⟨rest, debit, rfl⟩
        ⟨sum, credit, rfl⟩ same.symm⟩
  · intro transferred
    rcases transferred with ⟨ownerAddr, _, ⟨ownerValid, draws⟩, stored, advances, redistributes,
      converted, valid, ⟨rest, debit, rfl⟩, ⟨sum, credit, rfl⟩, same⟩
    rcases returns_deductAllowance.mpr ⟨_, draws, rfl⟩ with ⟨left, deducted⟩
    rcases returns_changePeriod.mpr ⟨_, advances, redistributes, rfl⟩ with ⟨result, changed⟩
    exact ⟨_, _, valid, ownerAddr, ownerValid, left, _, deducted, _, stored, result, _, _,
      changed, _, converted, rest, debit, sum, credit, rfl, same.symm⟩

theorem executeBurnFrom_iff {owner : String} {amount : U128} :
    (∃ response, Returns (executeBurnFrom api env info owner amount) before response after) ↔
      ∃ ownerAddr drawn,
        DrawsFrom api env.block owner info.sender amount before ownerAddr drawn ∧
        BurnsTokens ownerAddr amount drawn after := by
  simp only [executeBurnFrom, returns_bind, returns_addrValidate, returns_debit,
    returns_updateSupply, returns_pure, and_assoc, exists_and_left, exists_eq_left']
  constructor
  · intro executed
    rcases executed with ⟨_, ownerAddr, ownerValid, left, _, deducted, rest, debit, lowered, _,
      ⟨config, token, burns, rfl⟩, _, same⟩
    rcases returns_deductAllowance.mp ⟨left, deducted⟩ with ⟨drawn, draws, rfl⟩
    exact ⟨ownerAddr, _, .intro ownerValid draws,
      .intro ⟨rest, debit, rfl⟩ token burns same.symm⟩
  · intro burned
    rcases burned with ⟨ownerAddr, _, ⟨ownerValid, draws⟩, ⟨rest, debit, rfl⟩, token, burns, same⟩
    rcases returns_deductAllowance.mpr ⟨_, draws, rfl⟩ with ⟨left, deducted⟩
    exact ⟨_, ownerAddr, ownerValid, left, _, deducted, rest, debit, _, _,
      ⟨_, token, burns, rfl⟩, rfl, same.symm⟩

theorem executeSendFrom_iff {owner contract : String} {amount : U128} {msg : Binary} :
    (∃ response, Returns (executeSendFrom api env info owner contract amount msg) before
        response after) ↔
      ∃ ownerAddr drawn,
        DrawsFrom api env.block owner info.sender amount before ownerAddr drawn ∧
        Sends api ownerAddr contract amount drawn after := by
  simp only [executeSendFrom, returns_bind, returns_addrValidate, returns_debit, returns_credit,
    returns_pure, and_assoc, exists_and_left, exists_eq_left']
  constructor
  · intro executed
    rcases executed with ⟨_, rcptAddr, valid, ownerAddr, ownerValid, left, _, deducted, rest,
      debit, sum, credit, _, same⟩
    rcases returns_deductAllowance.mp ⟨left, deducted⟩ with ⟨drawn, draws, rfl⟩
    exact ⟨ownerAddr, _, .intro ownerValid draws,
      .intro valid ⟨rest, debit, rfl⟩ ⟨sum, credit, rfl⟩ same.symm⟩
  · intro sent
    rcases sent with ⟨ownerAddr, _, ⟨ownerValid, draws⟩, valid, ⟨rest, debit, rfl⟩,
      ⟨sum, credit, rfl⟩, same⟩
    rcases returns_deductAllowance.mpr ⟨_, draws, rfl⟩ with ⟨left, deducted⟩
    exact ⟨_, _, valid, ownerAddr, ownerValid, left, _, deducted, rest, debit, sum, credit, rfl,
      same.symm⟩

theorem executeMint_iff {recipient : String} {amount : U128} :
    (∃ response, Returns (executeMint api env info recipient amount) before response after) ↔
      Effect api env info.sender before after (.mint recipient amount) := by
  simp only [executeMint, returns_bind, Prod.exists, Item.returns_mayLoad, Item.returns_save,
    returns_orThrow, returns_checked, returns_reject, returns_addrValidate, returns_credit,
    returns_pure, Checked.add_eq_some, and_assoc, exists_and_left, exists_eq_left', exists_const]
  constructor
  · intro executed
    rcases executed with ⟨nonzero, _, config, token, current, stored, role, minted, authorised,
      totalSupply, raised, capped, result, updated, _, changed, base, converted, rcptAddr, valid,
      sum, credit, _, same⟩
    rcases returns_changePeriod.mp ⟨result, changed⟩ with ⟨funds, advances, redistributes, rfl⟩
    exact .mint nonzero token minted (not_not.mp authorised) raised
      (Bool.eq_false_of_not_eq_true capped) stored advances redistributes converted valid
      ⟨sum, credit, rfl⟩ same.symm
  · intro effect
    cases effect with
    | @mint _ _ totalSupply base config role current updated rcptAddr funds credited nonzero token
        minted authorised raised capped stored advances redistributes converted valid credits
        same =>
        rcases credits with ⟨sum, credit, rfl⟩
        rcases (@returns_changePeriod api env current updated
          { before with tokenInfo := some { config with totalSupply } } _).mpr
            ⟨_, advances, redistributes, rfl⟩ with ⟨result, changed⟩
        have under : ¬ exceeds totalSupply config.getCap = true := by
          rw [capped]
          exact Bool.false_ne_true
        exact ⟨nonzero, _, config, token, current, stored, role, minted, not_not.mpr authorised,
          totalSupply, raised, under, result, updated, _, changed, base, converted, rcptAddr,
          valid, sum, credit, rfl, same.symm⟩

theorem executeIncreaseAllowance_iff {spender : String} {amount : U128}
    {expires : Option Expiration} :
    (∃ response, Returns (executeIncreaseAllowance api info spender amount expires) before
        response after) ↔
      Effect api env info.sender before after (.increaseAllowance spender amount expires) := by
  simp only [executeIncreaseAllowance, returns_bind, Item.returns_mayLoad, Map.returns_update,
    returns_orThrow, returns_checked, returns_reject, returns_addrValidate, returns_pure,
    Checked.add_eq_some, and_assoc, exists_and_left, exists_eq_left', exists_const]
  constructor
  · intro executed
    rcases executed with ⟨_, spenderAddr, valid, distinct, current, stored, baseValue, converted,
      _, _, ⟨_, ⟨granted, grant, allowance, raised, rfl, rfl⟩, rfl⟩, _, same⟩
    rw [← grant] at raised
    exact .increaseAllowance valid distinct stored converted ⟨allowance, raised, rfl⟩ same.symm
  · intro effect
    cases effect with
    | increaseAllowance valid distinct stored converted grants same =>
        rcases grants with ⟨allowance, raised, rfl⟩
        rcases Checked.word_exists (lt_of_le_of_lt (Nat.le_add_left _ _)
          (raised ▸ allowance.isLt)) with ⟨granted, grant⟩
        rw [grant] at raised
        exact ⟨_, _, valid, distinct, _, stored, _, converted, _, _,
          ⟨before, ⟨granted, grant, allowance, raised, rfl, rfl⟩, rfl⟩, rfl, same.symm⟩

theorem executeDecreaseAllowance_iff {spender : String} {amount : U128}
    {expires : Option Expiration} :
    (∃ response, Returns (executeDecreaseAllowance api info spender amount expires) before
        response after) ↔
      Effect api env info.sender before after (.decreaseAllowance spender amount expires) := by
  simp only [executeDecreaseAllowance, returns_bind, Map.returns_load, returns_reject,
    returns_addrValidate, and_assoc, exists_and_left, exists_eq_left', exists_const]
  constructor
  · intro executed
    rcases executed with ⟨_, spenderAddr, valid, distinct, entry, present, rest⟩
    split at rest
    · rename_i covered
      simp only [returns_bind, returns_checkedSub, Map.returns_save, returns_pure] at rest
      rcases rest with ⟨allowance, _, ⟨difference, rfl⟩, _, _, rfl, _, same⟩
      exact .decreaseAllowance valid distinct (.lowered present covered difference) same.symm
    · rename_i exhausted
      simp only [returns_bind, Map.returns_remove, returns_pure] at rest
      rcases rest with ⟨_, _, rfl, _, same⟩
      exact .decreaseAllowance valid distinct (.removed present (Nat.le_of_not_lt exhausted))
        same.symm
  · intro effect
    let response : Response := { attributes := [("action", "decrease_allowance"),
      ("owner", info.sender.asStr), ("spender", spender), ("amount", amount.text)] }
    cases effect with
    | decreaseAllowance valid distinct lowers same =>
        cases lowers with
        | lowered present covered difference =>
            refine ⟨response, _, valid, distinct, _, present, ?_⟩
            rw [if_pos covered]
            simp only [returns_bind, returns_checkedSub, Map.returns_save, returns_pure]
            exact ⟨_, before, ⟨difference, rfl⟩, (), _, rfl, rfl, same.symm⟩
        | removed present exhausted =>
            refine ⟨response, _, valid, distinct, _, present, ?_⟩
            rw [if_neg (Nat.not_lt_of_le exhausted)]
            simp only [returns_bind, Map.returns_remove, returns_pure]
            exact ⟨(), _, rfl, rfl, same.symm⟩

theorem executeUpdateMinter_iff {newMinter : String} :
    (∃ response, Returns (executeUpdateMinter api info newMinter) before response after) ↔
      Effect api env info.sender before after (.updateMinter newMinter) := by
  simp only [executeUpdateMinter, returns_bind, Item.returns_mayLoad, Item.returns_save,
    returns_orThrow, returns_reject, returns_addrValidate, returns_pure, and_assoc,
    exists_and_left, exists_eq_left', exists_const]
  constructor
  · intro executed
    rcases executed with ⟨_, config, token, role, minted, authorised, minter, valid, _, same⟩
    exact .updateMinter token minted (not_not.mp authorised) valid same.symm
  · intro effect
    cases effect with
    | updateMinter token minted authorised valid same =>
        exact ⟨_, _, token, _, minted, not_not.mpr authorised, _, valid, rfl, same.symm⟩

theorem executeChangeSinkAddress_iff {address : String} :
    (∃ response, Returns (executeChangeSinkAddress address) before response after) ↔
      Effect api env info.sender before after (.changeSinkAddress address) := by
  simp only [executeChangeSinkAddress, returns_bind, Item.returns_mayLoad, Item.returns_save,
    returns_orThrow, returns_pure, and_assoc, exists_and_left, exists_eq_left', exists_const]
  constructor
  · intro executed
    rcases executed with ⟨_, current, stored, _, same⟩
    exact .changeSinkAddress stored same.symm
  · intro effect
    cases effect with
    | changeSinkAddress stored same =>
        exact ⟨_, _, stored, rfl, same.symm⟩

theorem executeChangeTaxLevel_iff {amount : U128} :
    (∃ response, Returns (executeChangeTaxLevel amount) before response after) ↔
      Effect api env info.sender before after (.changeTaxLevel amount) := by
  simp only [executeChangeTaxLevel, returns_bind, Item.returns_mayLoad, Item.returns_save,
    returns_orThrow, returns_pure, and_assoc, exists_and_left, exists_eq_left', exists_const]
  constructor
  · intro executed
    rcases executed with ⟨_, current, stored, _, same⟩
    exact .changeTaxLevel stored same.symm
  · intro effect
    cases effect with
    | changeTaxLevel stored same =>
        exact ⟨_, _, stored, rfl, same.symm⟩

/-- The messages do exactly what `Effect` says. -/
theorem executes_iff_effect {api : Api} {call : Call} {before after : Storage} :
    Executes api call before after ↔
      Effect api call.env call.info.sender before after call.msg := by
  obtain ⟨env, info, msg⟩ := call
  unfold Executes
  cases msg with
  | transfer recipient amount =>
      simp only [execute, executeTransfer_iff]
      constructor
      · intro transferred
        rcases transferred with ⟨nonzero, transfers⟩
        exact .transfer nonzero transfers
      · intro effect
        cases effect with
        | transfer nonzero transfers =>
            exact ⟨nonzero, transfers⟩
  | burn amount =>
      simp only [execute, executeBurn_iff]
      constructor
      · intro burned
        rcases burned with ⟨nonzero, burns⟩
        exact .burn nonzero burns
      · intro effect
        cases effect with
        | burn nonzero burns =>
            exact ⟨nonzero, burns⟩
  | send contract amount msg =>
      simp only [execute, executeSend_iff]
      constructor
      · intro sent
        rcases sent with ⟨nonzero, sends⟩
        exact .send nonzero sends
      · intro effect
        cases effect with
        | send nonzero sends =>
            exact ⟨nonzero, sends⟩
  | increaseAllowance spender amount expires => exact executeIncreaseAllowance_iff
  | decreaseAllowance spender amount expires => exact executeDecreaseAllowance_iff
  | transferFrom owner recipient amount =>
      simp only [execute, executeTransferFrom_iff]
      constructor
      · intro transferred
        rcases transferred with ⟨ownerAddr, drawn, draws, transfers⟩
        exact .transferFrom draws transfers
      · intro effect
        cases effect with
        | transferFrom draws transfers =>
            exact ⟨_, _, draws, transfers⟩
  | sendFrom owner contract amount msg =>
      simp only [execute, executeSendFrom_iff]
      constructor
      · intro sent
        rcases sent with ⟨ownerAddr, drawn, draws, sends⟩
        exact .sendFrom draws sends
      · intro effect
        cases effect with
        | sendFrom draws sends =>
            exact ⟨_, _, draws, sends⟩
  | burnFrom owner amount =>
      simp only [execute, executeBurnFrom_iff]
      constructor
      · intro burned
        rcases burned with ⟨ownerAddr, drawn, draws, burns⟩
        exact .burnFrom draws burns
      · intro effect
        cases effect with
        | burnFrom draws burns =>
            exact ⟨_, _, draws, burns⟩
  | mint recipient amount => exact executeMint_iff
  | updateMinter newMinter => exact executeUpdateMinter_iff
  | changeSinkAddress address => exact executeChangeSinkAddress_iff
  | changeTaxLevel amount => exact executeChangeTaxLevel_iff

end DemurrageToken.Spec
