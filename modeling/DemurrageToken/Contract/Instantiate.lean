import DemurrageToken.Contract.Execute

/-!
Contract: instantiation.

Owns: the account list checks, the saving loop and `instantiate`.
-/

namespace DemurrageToken.Contract

open DemurrageToken.Library
open DemurrageToken.Library.Handler

/-- `sort` and `dedup` of the listed addresses: `dedup` drops consecutive
repetitions only. -/
def distinctAddresses (accounts : List Cw20Coin) : List String :=
  ((accounts.map Cw20Coin.address).insertionSort (· ≤ ·)).destutter (· ≠ ·)

/-- `validate_accounts`. -/
def validateAccounts (accounts : List Cw20Coin) : TokenHandler Unit :=
  reject ((distinctAddresses accounts).length ≠ accounts.length)
    .duplicateInitialBalanceAddresses

/-- One row of the loop in `create_accounts`. -/
def createAccount (api : Api) (totalSupply : U128) (row : Cw20Coin) : TokenHandler U128 := do
  let address ← addrValidate api row.address
  balances.save address row.amount
  checked (Checked.add totalSupply row.amount)

/-- `create_accounts`. -/
def createAccounts (api : Api) (accounts : List Cw20Coin) : TokenHandler U128 := do
  validateAccounts accounts
  accounts.foldlM (createAccount api) 0

/-- The optional minter, with its address validated. -/
def validateMint (api : Api) : Option MinterResponse → TokenHandler (Option MinterData)
  | none => pure none
  | some mint => do
      let minter ← addrValidate api mint.minter
      pure (some { minter, cap := mint.cap })

/-- `instantiate`. -/
def instantiate (api : Api) (env : Env) (msg : InstantiateMsg) : TokenHandler Response := do
  contractInfo.save ⟨"crates.io:cw20-base", "0.1.0"⟩
  fromResult (msg.validate.mapError .std)
  let totalSupply ← createAccounts api msg.initialBalances
  let periodStart := env.block.time
  let periodDuration ← checked (Checked.mul msg.periodMinutes 60)
  reject (exceeds totalSupply msg.getCap)
    (.std (.genericErr "Initial supply greater than cap"))
  let minimumParticipantSpend ← checked (Checked.pow (10 : U32) msg.decimals.toNat)
  state.save {
    startTimestamp := periodStart
    demurrageTimestamp := periodStart
    periodMinute := periodDuration
    currentPeriod := 0
    demurrageAmount := 100000000000000000000000
    sinkAddress := msg.sinkAddress
    minimumParticipantSpend
    taxLevel := msg.taxLevelMinute }
  let mint ← validateMint api msg.mint
  tokenInfo.save {
    name := msg.name
    symbol := msg.symbol
    decimals := msg.decimals
    totalSupply
    mint }
  pure {}

end DemurrageToken.Contract
