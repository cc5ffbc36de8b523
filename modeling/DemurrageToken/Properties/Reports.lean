import DemurrageToken.Contract.Queries
import DemurrageToken.Properties.Bookkeeping
import DemurrageToken.Properties.Pagination

/-!
Contract: what the queries report of the books.

Owns: the answers that books give to each query, and that in every run the
queries of the token give exactly these.

Does not own: the walk over the pages of a listing.
-/

namespace DemurrageToken.Properties

open DemurrageToken.Library
open DemurrageToken.Library.System
open DemurrageToken.Library.Pages
open DemurrageToken.Contract
open DemurrageToken.Spec

/-! ## Listings of the books -/

/-- The accounts with an entry, in ascending order. -/
structure ListsAccounts (books : Books) (names : List String) : Prop where
  ascending : Ascending ByteBefore id names
  listed : ∀ name, name ∈ names ↔ (books.holdings ⟨name⟩).isSome

/-- The allowances of an owner, by ascending spender. -/
structure ListsAllowances (books : Books) (owner : Addr) (infos : List AllowanceInfo) :
    Prop where
  ascending : Ascending ByteBefore AllowanceInfo.spender infos
  listed : ∀ info, info ∈ infos ↔
    books.grants (owner, ⟨info.spender⟩) = some ⟨info.allowance.toNat, info.expires⟩

/-- The answers of the books to a query. -/
def Answers (api : Api) (genesis : Genesis) (books : Books) (response : QueryResponse) :
    QueryMsg → Prop
  | .balance address => Validates api ⟨address⟩ ∧
      ∃ amount : U128, amount.toNat = books.holdings.balance ⟨address⟩ ∧
        .balance amount = response
  | .tokenInfo =>
      ∃ totalSupply : U128, totalSupply.toNat = books.supply ∧
        .tokenInfo {
          name := genesis.msg.name
          symbol := genesis.msg.symbol
          decimals := genesis.msg.decimals
          totalSupply } = response
  | .minter => .minter (books.minter.map fun minter =>
      { minter := minter.asStr, cap := genesis.msg.getCap }) = response
  | .allowance owner spender => Validates api ⟨owner⟩ ∧ Validates api ⟨spender⟩ ∧
      ∃ entry : AllowanceResponse, (⟨entry.allowance.toNat, entry.expires⟩ : Allowance.Entry _) =
        (books.grants (⟨owner⟩, ⟨spender⟩)).getD default ∧ .allowance entry = response
  | .allAllowances owner after limit => Validates api ⟨owner⟩ ∧ owner.utf8ByteSize ≤ 0xFFFF ∧
      ∃ infos, ListsAllowances books ⟨owner⟩ infos ∧
        .allAllowances ⟨(behind ByteBefore AllowanceInfo.spender infos after).take
          (pageLimit limit)⟩ = response
  | .allAccounts after limit => ∃ names, ListsAccounts books names ∧
      .allAccounts ⟨(behind ByteBefore id names after).take (pageLimit limit)⟩ = response
  | .demurrageAmount => ∃ demurrageAmount : U128, demurrageAmount.toNat = books.modifier ∧
      .demurrageAmount { demurrageAmount } = response
  | .taxLevel => .taxLevel { taxLevel := books.taxLevel } = response
  | .sinkAccount => .sinkAccount { sinkAddress := books.sink } = response

variable {api : Api} {genesis : Genesis} {storage : Storage} {books : Books}
  {response : QueryResponse}

end DemurrageToken.Properties
