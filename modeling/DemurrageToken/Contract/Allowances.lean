import DemurrageToken.Contract.Demurrage

/-!
Contract: the allowance handlers of `contract.rs` and `allowances.rs`.

Owns: granting, lowering and drawing allowances, and the two delegated handlers
that do not touch the demurrage state, `execute_burn_from` and
`execute_send_from`.
-/

namespace DemurrageToken.Contract

open DemurrageToken.Library
open DemurrageToken.Library.Handler

/-- `deduct_allowance`, which both source files define with the same body. -/
def deductAllowance (owner spender : Addr) (block : BlockInfo) (amount : U128) :
    TokenHandler AllowanceResponse :=
  allowances.update (owner, spender) fun current => do
    let entry ← orThrow current .noAllowance
    reject (entry.expires.isExpired block) .expired
    let allowance ← checkedSub entry.allowance amount
    pure { entry with allowance }

/-- `execute_increase_allowance`. The grant is `amount` and its base value on
top of it. -/
def executeIncreaseAllowance (api : Api) (info : MessageInfo) (spender : String)
    (amount : U128) (expires : Option Expiration) : TokenHandler Response := do
  let spenderAddr ← addrValidate api spender
  reject (spenderAddr = info.sender) .cannotSetOwnAccount
  let current ← orThrow (← state.mayLoad) .unauthorized
  let baseValue ← checked (toBaseAmount amount current.demurrageAmount)
  let _ ← allowances.update (info.sender, spenderAddr) fun allow => do
    let val := allow.getD default
    let granted ← checked (Checked.add amount baseValue)
    let allowance ← checked (Checked.add val.allowance granted)
    pure { allowance, expires := expires.getD val.expires }
  pure { attributes := [("action", "increase_allowance"), ("owner", info.sender.asStr),
    ("spender", spender), ("amount", amount.text)] }

/-- `execute_decrease_allowance`. -/
def executeDecreaseAllowance (api : Api) (info : MessageInfo) (spender : String)
    (amount : U128) (expires : Option Expiration) : TokenHandler Response := do
  let spenderAddr ← addrValidate api spender
  reject (spenderAddr = info.sender) .cannotSetOwnAccount
  let allowance ← allowances.load (info.sender, spenderAddr) allowanceNotFound
  if amount.toNat < allowance.allowance.toNat then
    let lowered ← checkedSub allowance.allowance amount
    allowances.save (info.sender, spenderAddr)
      { allowance := lowered, expires := expires.getD allowance.expires }
  else
    allowances.remove (info.sender, spenderAddr)
  pure { attributes := [("action", "decrease_allowance"), ("owner", info.sender.asStr),
    ("spender", spender), ("amount", amount.text)] }

/-- The closure that lowers the supply. -/
def burnSupply (amount : U128) (info : TokenInfo) : TokenHandler TokenInfo := do
  let totalSupply ← checkedSub info.totalSupply amount
  pure { info with totalSupply }

/-- `execute_burn_from`. -/
def executeBurnFrom (api : Api) (env : Env) (info : MessageInfo) (owner : String)
    (amount : U128) : TokenHandler Response := do
  let ownerAddr ← addrValidate api owner
  let _ ← deductAllowance ownerAddr info.sender env.block amount
  let _ ← balances.update ownerAddr (subtractFrom amount)
  let _ ← tokenInfo.update tokenInfoNotFound (burnSupply amount)
  pure { attributes := [("action", "burn_from"), ("from", owner), ("by", info.sender.asStr),
    ("amount", amount.text)] }

/-- `execute_send_from`. -/
def executeSendFrom (api : Api) (env : Env) (info : MessageInfo) (owner contract : String)
    (amount : U128) (msg : Binary) : TokenHandler Response := do
  let rcptAddr ← addrValidate api contract
  let ownerAddr ← addrValidate api owner
  let _ ← deductAllowance ownerAddr info.sender env.block amount
  let _ ← balances.update ownerAddr (subtractFrom amount)
  let _ ← balances.update rcptAddr (addTo amount)
  let receive : Cw20ReceiveMsg := { sender := info.sender.asStr, amount, msg }
  pure {
    messages := [receive.intoCosmosMsg contract]
    attributes := [("action", "send_from"), ("from", owner), ("to", contract),
      ("by", info.sender.asStr), ("amount", amount.text)] }

end DemurrageToken.Contract
