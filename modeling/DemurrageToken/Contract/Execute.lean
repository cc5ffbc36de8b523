import DemurrageToken.Contract.Allowances

/-!
Contract: the remaining execute handlers of `contract.rs` and the dispatch.

Owns: the handlers that move, mint and burn tokens or change a role or a
parameter, and `execute`.
-/

namespace DemurrageToken.Contract

open DemurrageToken.Library
open DemurrageToken.Library.Handler

/-- `execute_change_tax_level`; the sender is not among its arguments. -/
def executeChangeTaxLevel (amount : U128) : TokenHandler Response := do
  let current ← orThrow (← state.mayLoad) .unauthorized
  let updated := { current with taxLevel := amount }
  state.save updated
  pure { attributes := [("action", "change tax level"),
    ("new tax amount", updated.taxLevel.text)] }

/-- `execute_change_sink_address`; the address is stored as it comes. -/
def executeChangeSinkAddress (sinkAddr : String) : TokenHandler Response := do
  let current ← orThrow (← state.mayLoad) .unauthorized
  let updated := { current with sinkAddress := sinkAddr }
  state.save updated
  pure { attributes := [("action", "change sink address"),
    ("new address", updated.sinkAddress)] }

/-- `execute_transfer`. The result of `change_period` is dropped. The sender
is debited `amount`, the recipient is credited its base value. -/
def executeTransfer (api : Api) (env : Env) (info : MessageInfo) (recipient : String)
    (amount : U128) : TokenHandler Response := do
  let current ← orThrow (← state.mayLoad) .unauthorized
  let (_, current) ← changePeriod api env current
  let baseValue ← checked (toBaseAmount amount current.demurrageAmount)
  reject (amount = 0) .invalidZeroAmount
  let rcptAddr ← addrValidate api recipient
  let _ ← balances.update info.sender (subtractFrom amount)
  let _ ← balances.update rcptAddr (addTo baseValue)
  pure { attributes := [("action", "transfer"), ("from", info.sender.asStr),
    ("to", recipient), ("amount", amount.text)] }

/-- `execute_transfer_from`. -/
def executeTransferFrom (api : Api) (env : Env) (info : MessageInfo) (owner recipient : String)
    (amount : U128) : TokenHandler Response := do
  let rcptAddr ← addrValidate api recipient
  let ownerAddr ← addrValidate api owner
  let _ ← deductAllowance ownerAddr info.sender env.block amount
  let current ← orThrow (← state.mayLoad) .unauthorized
  let (_, current) ← changePeriod api env current
  let baseValue ← checked (toBaseAmount amount current.demurrageAmount)
  let _ ← balances.update ownerAddr (subtractFrom amount)
  let _ ← balances.update rcptAddr (addTo baseValue)
  pure { attributes := [("action", "transfer"), ("from", owner), ("to", recipient),
    ("amount", amount.text)] }

/-- `execute_burn`. -/
def executeBurn (info : MessageInfo) (amount : U128) : TokenHandler Response := do
  reject (amount = 0) .invalidZeroAmount
  let _ ← balances.update info.sender (subtractFrom amount)
  let _ ← tokenInfo.update tokenInfoNotFound (burnSupply amount)
  pure { attributes := [("action", "burn"), ("from", info.sender.asStr),
    ("amount", amount.text)] }

/-- The cap check of `execute_mint` and `instantiate`. -/
def exceeds (supply : U128) : Option U128 → Bool
  | none => false
  | some limit => limit.toNat < supply.toNat

/-- `execute_mint`. The supply grows by `amount` and is saved before
`change_period` reads it; the recipient is credited the base value. -/
def executeMint (api : Api) (env : Env) (info : MessageInfo) (recipient : String)
    (amount : U128) : TokenHandler Response := do
  reject (amount = 0) .invalidZeroAmount
  let config ← orThrow (← tokenInfo.mayLoad) .unauthorized
  let current ← orThrow (← state.mayLoad) .unauthorized
  let mint ← orThrow config.mint .unauthorized
  reject (mint.minter ≠ info.sender) .unauthorized
  let totalSupply ← checked (Checked.add config.totalSupply amount)
  let config := { config with totalSupply }
  reject (exceeds config.totalSupply config.getCap) .cannotExceedCap
  tokenInfo.save config
  let (_, current) ← changePeriod api env current
  let baseValue ← checked (toBaseAmount amount current.demurrageAmount)
  let rcptAddr ← addrValidate api recipient
  let _ ← balances.update rcptAddr (addTo baseValue)
  pure { attributes := [("action", "mint"), ("to", recipient), ("amount", amount.text)] }

/-- `execute_send`. -/
def executeSend (api : Api) (info : MessageInfo) (contract : String) (amount : U128)
    (msg : Binary) : TokenHandler Response := do
  reject (amount = 0) .invalidZeroAmount
  let rcptAddr ← addrValidate api contract
  let _ ← balances.update info.sender (subtractFrom amount)
  let _ ← balances.update rcptAddr (addTo amount)
  let receive : Cw20ReceiveMsg := { sender := info.sender.asStr, amount, msg }
  pure {
    messages := [receive.intoCosmosMsg contract]
    attributes := [("action", "send"), ("from", info.sender.asStr), ("to", contract),
      ("amount", amount.text)] }

/-- `execute_update_minter`. -/
def executeUpdateMinter (api : Api) (info : MessageInfo) (newMinter : String) :
    TokenHandler Response := do
  let config ← orThrow (← tokenInfo.mayLoad) .unauthorized
  let mint ← orThrow config.mint .unauthorized
  reject (mint.minter ≠ info.sender) .unauthorized
  let minter ← addrValidate api newMinter
  tokenInfo.save { config with mint := some { minter, cap := mint.cap } }
  pure { attributes := [("action", "update_minter"), ("new_minter", newMinter)] }

/-- `execute`. -/
def execute (api : Api) (env : Env) (info : MessageInfo) : ExecuteMsg → TokenHandler Response
  | .transfer recipient amount => executeTransfer api env info recipient amount
  | .burn amount => executeBurn info amount
  | .send contract amount msg => executeSend api info contract amount msg
  | .mint recipient amount => executeMint api env info recipient amount
  | .increaseAllowance spender amount expires =>
      executeIncreaseAllowance api info spender amount expires
  | .decreaseAllowance spender amount expires =>
      executeDecreaseAllowance api info spender amount expires
  | .transferFrom owner recipient amount =>
      executeTransferFrom api env info owner recipient amount
  | .burnFrom owner amount => executeBurnFrom api env info owner amount
  | .sendFrom owner contract amount msg =>
      executeSendFrom api env info owner contract amount msg
  | .updateMinter newMinter => executeUpdateMinter api info newMinter
  | .changeSinkAddress address => executeChangeSinkAddress address
  | .changeTaxLevel amount => executeChangeTaxLevel amount

end DemurrageToken.Contract
