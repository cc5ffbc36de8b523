import DemurrageToken.Contract.Instantiate

/-!
Contract: the queries of single records, balances and allowances.

Owns: the point queries of `contract.rs` and `allowances.rs`, over a storage they
do not change, and what those that take an address return.
-/

namespace DemurrageToken.Contract

open DemurrageToken.Library

/-- `TokenInfoResponse`. -/
structure TokenInfoResponse where
  name : String
  symbol : String
  decimals : U32
  totalSupply : U128
deriving DecidableEq, Repr

/-- `query_balance`. -/
def queryBalance (api : Api) (storage : Storage) (address : String) : Except StdError U128 := do
  let address ← api.addrValidate address
  pure (storage.balances[address]?.getD 0)

/-- `query_token_info`. -/
def queryTokenInfo (storage : Storage) : Except StdError TokenInfoResponse :=
  match storage.tokenInfo with
  | none => .error (.notFound "demurrage_token::state::TokenInfo")
  | some info => .ok {
      name := info.name
      symbol := info.symbol
      decimals := info.decimals
      totalSupply := info.totalSupply }

/-- `query_allowance`. -/
def queryAllowance (api : Api) (storage : Storage) (owner spender : String) :
    Except StdError AllowanceResponse := do
  let ownerAddr ← api.addrValidate owner
  let spenderAddr ← api.addrValidate spender
  pure (storage.allowances[(ownerAddr, spenderAddr)]?.getD default)

/-- `DemurrageAmountResponse`. -/
structure DemurrageAmountResponse where
  demurrageAmount : U128
deriving DecidableEq, Repr

/-- `SinkAddressResponse`. -/
structure SinkAddressResponse where
  sinkAddress : String
deriving DecidableEq, Repr

/-- `TaxLevelResponse`. -/
structure TaxLevelResponse where
  taxLevel : U128
deriving DecidableEq, Repr

theorem queryBalance_eq_ok {api : Api} {storage : Storage} {address : String} {balance : U128} :
    queryBalance api storage address = .ok balance ↔
      ∃ account, api.addrValidate address = .ok account ∧
        storage.balances[account]?.getD 0 = balance := by
  unfold queryBalance
  cases api.addrValidate address with
  | error error =>
      constructor
      · intro returned
        cases returned
      · rintro ⟨_, valid, _⟩
        cases valid
  | ok account =>
      constructor
      · intro returned
        exact ⟨account, rfl, Except.ok.inj returned⟩
      · rintro ⟨_, valid, rfl⟩
        cases valid
        rfl

theorem queryAllowance_eq_ok {api : Api} {storage : Storage} {owner spender : String}
    {entry : AllowanceResponse} :
    queryAllowance api storage owner spender = .ok entry ↔
      ∃ ownerAddr spenderAddr, api.addrValidate owner = .ok ownerAddr ∧
        api.addrValidate spender = .ok spenderAddr ∧
        storage.allowances[(ownerAddr, spenderAddr)]?.getD default = entry := by
  unfold queryAllowance
  cases api.addrValidate owner with
  | error error =>
      constructor
      · intro returned
        cases returned
      · rintro ⟨_, _, valid, _⟩
        cases valid
  | ok ownerAddr =>
      cases api.addrValidate spender with
      | error error =>
          constructor
          · intro returned
            cases returned
          · rintro ⟨_, _, _, valid, _⟩
            cases valid
      | ok spenderAddr =>
          constructor
          · intro returned
            exact ⟨ownerAddr, spenderAddr, rfl, rfl, Except.ok.inj returned⟩
          · rintro ⟨_, _, ownerValid, spenderValid, rfl⟩
            cases ownerValid
            cases spenderValid
            rfl

end DemurrageToken.Contract
