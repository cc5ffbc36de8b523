import DemurrageToken.Contract.Enumerable
import DemurrageToken.Contract.Query

/-!
Contract: the query entry point.

Owns: the messages, the answers before they are serialised, and `query`. `none`
is an abort; of all queries only the listing of allowances has one.
-/

namespace DemurrageToken.Contract

/-- `QueryMsg`. -/
inductive QueryMsg where
  | balance (address : String)
  | tokenInfo
  | minter
  | allowance (owner spender : String)
  | allAllowances (owner : String) (startAfter : Option String) (limit : Option U32)
  | allAccounts (startAfter : Option String) (limit : Option U32)
  | demurrageAmount
  | taxLevel
  | sinkAccount
deriving DecidableEq, Repr

/-- The answer that `to_binary` serialises. -/
inductive QueryResponse where
  | balance (balance : U128)
  | tokenInfo (info : TokenInfoResponse)
  | minter (minter : Option MinterResponse)
  | allowance (entry : AllowanceResponse)
  | allAllowances (page : AllAllowancesResponse)
  | allAccounts (page : AllAccountsResponse)
  | demurrageAmount (response : DemurrageAmountResponse)
  | taxLevel (response : TaxLevelResponse)
  | sinkAccount (response : SinkAddressResponse)
deriving DecidableEq, Repr

end DemurrageToken.Contract
