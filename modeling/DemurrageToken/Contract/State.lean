import DemurrageToken.Contract.Host
import DemurrageToken.Library.Ledger
import DemurrageToken.Library.Storage

/-!
Contract: the stored records, the messages and the errors of the token.

Owns: `state.rs`, `msg.rs` and `error.rs`, the cw20 records they use, the
storage as the five regions the contract declares, and `InstantiateMsg::validate`.

Does not own: the marketing record and the logo errors, which no handler uses,
and `supply_cap`, which no code reads.
-/

namespace DemurrageToken.Contract

open DemurrageToken.Library

/-! ## Records -/

structure MinterData where
  minter : Addr
  cap : Option U128
deriving DecidableEq, Repr

structure TokenInfo where
  name : String
  symbol : String
  decimals : U32
  totalSupply : U128
  mint : Option MinterData
deriving DecidableEq, Repr

/-- `TokenInfo::get_cap`. -/
def TokenInfo.getCap (info : TokenInfo) : Option U128 :=
  info.mint.bind MinterData.cap

/-- The demurrage state. `periodMinute` holds seconds: instantiation stores
`period_minutes * 60` in it. -/
structure State where
  startTimestamp : Timestamp
  demurrageTimestamp : Timestamp
  periodMinute : U64
  currentPeriod : U64
  demurrageAmount : U128
  sinkAddress : String
  minimumParticipantSpend : U32
  taxLevel : U128
deriving DecidableEq, Repr

/-- `State::get_current_period`. -/
def State.getCurrentPeriod (current : State) : U64 := current.currentPeriod

/-- `AllowanceResponse`, the value type of `ALLOWANCES`. The default grants
nothing and never expires. -/
structure AllowanceResponse where
  allowance : U128 := 0
  expires : Expiration := .never
deriving DecidableEq, Repr

instance : Inhabited AllowanceResponse := ⟨{}⟩

/-- The version record of `cw2`. -/
structure ContractVersion where
  contract : String
  version : String
deriving DecidableEq, Repr

/-! ## Storage -/

abbrev Balances := Ledger Addr 128

abbrev Allowances := Std.ExtTreeMap (Addr × Addr) AllowanceResponse

/-- Everything the contract stores. -/
structure Storage where
  contractInfo : Option ContractVersion := none
  tokenInfo : Option TokenInfo := none
  state : Option State := none
  balances : Balances := ∅
  allowances : Allowances := ∅
deriving DecidableEq

/-- `CONTRACT` of `cw2`. -/
def contractInfo : Item Storage ContractVersion where
  contents := Storage.contractInfo
  replace := fun contractInfo storage => { storage with contractInfo }

/-- `TOKEN_INFO`. -/
def tokenInfo : Item Storage TokenInfo where
  contents := Storage.tokenInfo
  replace := fun tokenInfo storage => { storage with tokenInfo }

/-- `STATE`. -/
def state : Item Storage State where
  contents := Storage.state
  replace := fun state storage => { storage with state }

/-- `BALANCES`. -/
def balances : Map Storage Addr U128 where
  contents := Storage.balances
  replace := fun balances storage => { storage with balances }

/-- `ALLOWANCES`, keyed by owner and spender. -/
def allowances : Map Storage (Addr × Addr) AllowanceResponse where
  contents := Storage.allowances
  replace := fun allowances storage => { storage with allowances }

/-! ## Errors -/

/-- `ContractError`. -/
inductive ContractError where
  | std (error : StdError)
  | unauthorized
  | cannotSetOwnAccount
  | invalidZeroAmount
  | expired
  | noAllowance
  | cannotExceedCap
  | duplicateInitialBalanceAddresses
deriving DecidableEq, Repr

/-- `load` of a missing token record. -/
def tokenInfoNotFound : ContractError :=
  .std (.notFound "demurrage_token::state::TokenInfo")

/-- `load` of a missing allowance. -/
def allowanceNotFound : ContractError :=
  .std (.notFound "cw20::query::AllowanceResponse")

/-- A handler of the contract. -/
abbrev TokenHandler := Handler Storage ContractError

/-- `deps.api.addr_validate(human)?`. -/
def addrValidate (api : Api) (human : String) : TokenHandler Addr :=
  Handler.fromResult ((api.addrValidate human).mapError .std)

/-- `left.checked_sub(right)?`, whose error names both operands. -/
def checkedSub (left right : U128) : TokenHandler U128 :=
  Handler.orThrow (Checked.sub left right)
    (.std (.overflow .sub left.text right.text))

/-! ## Messages -/

structure Cw20Coin where
  address : String
  amount : U128
deriving DecidableEq, Repr

structure MinterResponse where
  minter : String
  cap : Option U128
deriving DecidableEq, Repr

structure InstantiateMsg where
  name : String
  symbol : String
  decimals : U32
  initialBalances : List Cw20Coin
  mint : Option MinterResponse
  taxLevelMinute : U128
  periodMinutes : U64
  sinkAddress : String
deriving DecidableEq, Repr

/-- `InstantiateMsg::get_cap`. -/
def InstantiateMsg.getCap (msg : InstantiateMsg) : Option U128 :=
  msg.mint.bind MinterResponse.cap

/-- `is_valid_name`. -/
def isValidName (name : String) : Bool :=
  !(name.utf8ByteSize < 3 || name.utf8ByteSize > 50)

/-- `is_valid_symbol`: letters of either case and the hyphen. -/
def isValidSymbol (symbol : String) : Bool :=
  let bytes := symbol.toUTF8.data.toList
  if bytes.length < 3 || bytes.length > 12 then
    false
  else
    bytes.all fun byte =>
      !(byte != 45 && (byte < 65 || byte > 90) && (byte < 97 || byte > 122))

/-- `InstantiateMsg::validate`. -/
def InstantiateMsg.validate (msg : InstantiateMsg) : Except StdError Unit :=
  if !isValidName msg.name then
    .error (.genericErr "Name is not in the expected format (3-50 UTF-8 bytes)")
  else if !isValidSymbol msg.symbol then
    .error (.genericErr "Ticker symbol is not in expected format [a-zA-Z\\-]\x7b3,12\x7d")
  else if msg.decimals.toNat > 18 then
    .error (.genericErr "Decimals must not exceed 18")
  else
    .ok ()

inductive ExecuteMsg where
  | transfer (recipient : String) (amount : U128)
  | burn (amount : U128)
  | send (contract : String) (amount : U128) (msg : Binary)
  | increaseAllowance (spender : String) (amount : U128) (expires : Option Expiration)
  | decreaseAllowance (spender : String) (amount : U128) (expires : Option Expiration)
  | transferFrom (owner recipient : String) (amount : U128)
  | sendFrom (owner contract : String) (amount : U128) (msg : Binary)
  | burnFrom (owner : String) (amount : U128)
  | mint (recipient : String) (amount : U128)
  | updateMinter (newMinter : String)
  | changeSinkAddress (address : String)
  | changeTaxLevel (amount : U128)
deriving DecidableEq, Repr

end DemurrageToken.Contract
