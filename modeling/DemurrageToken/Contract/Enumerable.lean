import DemurrageToken.Contract.StoragePlus

/-!
Contract: the listing queries of `enumerable.rs`.

Owns: `query_all_allowances` and `query_all_accounts` over a storage they do not
change. `none` is an abort.
-/

namespace DemurrageToken.Contract

/-- `MAX_LIMIT`. -/
def maxLimit : U32 := 30

/-- `DEFAULT_LIMIT`. -/
def defaultLimit : U32 := 10

/-- `limit.unwrap_or(DEFAULT_LIMIT).min(MAX_LIMIT) as usize`. -/
def pageLimit (limit : Option U32) : Nat :=
  min (limit.getD defaultLimit).toNat maxLimit.toNat

/-- `AllowanceInfo`. -/
structure AllowanceInfo where
  spender : String
  allowance : U128
  expires : Expiration
deriving DecidableEq, Repr

/-- `AllAllowancesResponse`. -/
structure AllAllowancesResponse where
  allowances : List AllowanceInfo
deriving DecidableEq, Repr

/-- `AllAccountsResponse`. -/
structure AllAccountsResponse where
  accounts : List String
deriving DecidableEq, Repr

/-- One item of the allowance range. -/
def allowanceInfo (entry : Addr × AllowanceResponse) : AllowanceInfo where
  spender := entry.1.asStr
  allowance := entry.2.allowance
  expires := entry.2.expires

/-- `query_all_allowances`. -/
def queryAllAllowances (api : Api) (storage : Storage) (owner : String)
    (startAfter : Option String) (limit : Option U32) :
    Option (Except StdError AllAllowancesResponse) :=
  match api.addrValidate owner with
  | .error error => some (.error error)
  | .ok ownerAddr => do
      let limit := pageLimit limit
      let start := startAfter.map fun after => RawBound.exclusive (intoBytes after)
      let storagePrefix ← prefixNew allowanceNamespace ownerAddr.key
      let items := (prefixRange (rawAllowances storage) storagePrefix start none).take limit
      some do
        let allowances ← items.mapM fun item => item.map allowanceInfo
        pure { allowances }

/-- `query_all_accounts`. -/
def queryAllAccounts (storage : Storage) (startAfter : Option String) (limit : Option U32) :
    Option (Except StdError AllAccountsResponse) := do
  let limit := pageLimit limit
  let start := startAfter.map fun after => RawBound.exclusive (intoBytes after)
  let storagePrefix ← prefixNew balanceNamespace []
  let items := (prefixKeys (rawBalances storage) storagePrefix start none).take limit
  some do
    let accounts ← items.mapM fun item => item.map Addr.asStr
    pure { accounts }

end DemurrageToken.Contract
