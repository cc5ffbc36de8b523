import DemurrageToken.Contract.Replay
import DemurrageToken.Spec.Genesis

/-!
Contract: the accounts that instantiation creates.

Owns: which lists of accounts `create_accounts` accepts, the balances it leaves
for them, and which lists `sort` and `dedup` shorten.

Does not own: the rest of `instantiate`.
-/

namespace DemurrageToken.Properties

open DemurrageToken.Library
open DemurrageToken.Library.Handler
open DemurrageToken.Library.Ledger
open DemurrageToken.Contract
open DemurrageToken.Spec

variable {api : Api} {accounts : List Cw20Coin} {before after : Storage}

/-- Two positions of the list, wherever they are, have the same address. -/
def Repeats (accounts : List Cw20Coin) : Prop :=
  ∃ first second, first < second ∧ second < accounts.length ∧
    accounts[first]?.map Cw20Coin.address = accounts[second]?.map Cw20Coin.address

theorem repeats_iff : Repeats accounts ↔ ¬ (accounts.map Cw20Coin.address).Nodup := by
  rw [List.nodup_iff_getElem?_ne_getElem?]
  simp [Repeats]

/-- `dedup` after `sort` shortens the list exactly when an address occurs twice. -/
theorem distinctAddresses_shorter_iff :
    (distinctAddresses accounts).length < accounts.length ↔ Repeats accounts := by
  have atMost : (distinctAddresses accounts).length ≤ accounts.length := by
    have kept := (List.destutter_sublist (· ≠ ·)
      ((accounts.map Cw20Coin.address).insertionSort (· ≤ ·))).length_le
    rwa [List.length_insertionSort, List.length_map] at kept
  rw [repeats_iff, ← distinctAddresses_iff_nodup]
  omega

/-- A list that `create_accounts` should accept. -/
structure Creatable (api : Api) (accounts : List Cw20Coin) : Prop where
  distinct : ¬ Repeats accounts
  valid : ∀ row ∈ accounts, ∃ account, api.addrValidate row.address = .ok account
  fits : listedTotal accounts < 2 ^ 128

/-- The returned sum and the balances are those of the list, and only balances
were written. -/
structure CreatedAsListed (accounts : List Cw20Coin) (before : Storage) (sum : U128)
    (after : Storage) : Prop where
  returned : sum.toNat = listedTotal accounts
  supplied : total after.balances = sum.toNat
  listed : ∀ row ∈ accounts, after.balances[(⟨row.address⟩ : Addr)]? = some row.amount
  only : ∀ account ∈ after.balances, ∃ row ∈ accounts, row.address = account.asStr
  frame : after = { before with balances := after.balances }

theorem createdAsListed {sum : U128} (unspent : before.balances = ∅)
    (returned : Returns (createAccounts api accounts) before sum after) :
    CreatedAsListed accounts before sum after := by
  have supplied := (returns_createAccounts unspent returned).supplied
  rcases returns_createAccounts_iff.mp returned with ⟨distinct, _, sumListed, rfl⟩
  refine ⟨sumListed.symm, supplied, ?_, ?_, rfl⟩
  · intro row member
    exact getElem?_insertMany_listedEntries distinct member
  · intro account member
    rcases mem_insertMany_listedEntries.mp member with earlier | found
    · rw [unspent] at earlier
      exact absurd earlier Std.ExtTreeMap.not_mem_empty
    · exact found

/-- Into empty balances, `create_accounts` enters exactly the lists with distinct
valid addresses and a sum in the width, as they are listed; its check for
duplicates is exact. -/
theorem createAccounts_as_listed (unspent : before.balances = ∅) :
    ((∃ sum after, Returns (createAccounts api accounts) before sum after) ↔
        Creatable api accounts) ∧
      (∀ sum after, Returns (createAccounts api accounts) before sum after →
        CreatedAsListed accounts before sum after) ∧
      ((distinctAddresses accounts).length < accounts.length ↔ Repeats accounts) := by
  refine ⟨?_, fun _ _ => createdAsListed unspent, distinctAddresses_shorter_iff⟩
  constructor
  · intro found
    rcases found with ⟨sum, after, returned⟩
    rcases returns_createAccounts_iff.mp returned with ⟨distinct, valid, sumListed, _⟩
    refine ⟨?_, valid, sumListed ▸ sum.isLt⟩
    rw [repeats_iff]
    exact not_not.mpr distinct
  · intro creatable
    have distinct := not_not.mp (repeats_iff.not.mp creatable.distinct)
    obtain ⟨sum, after, returned, _⟩ :=
      @createAccounts_exists api _ before distinct creatable.valid creatable.fits
    exact ⟨sum, after, returned⟩

/-- Three accounts, listed out of order. -/
theorem createAccounts_three :
    ∃ sum after,
      Returns (createAccounts sampleApi [⟨"carol", 5⟩, ⟨"alice", 7⟩, ⟨"bob", 0⟩]) {} sum after ∧
        CreatedAsListed [⟨"carol", 5⟩, ⟨"alice", 7⟩, ⟨"bob", 0⟩] {} sum after := by
  have listed := @createAccounts_as_listed sampleApi
    [⟨"carol", 5⟩, ⟨"alice", 7⟩, ⟨"bob", 0⟩] {} rfl
  have creatable : Creatable sampleApi [⟨"carol", 5⟩, ⟨"alice", 7⟩, ⟨"bob", 0⟩] := by
    refine ⟨repeats_iff.not.mpr (not_not.mpr (by decide)), ?_, by decide⟩
    intro row member
    have accepted : ∀ row ∈ ([⟨"carol", 5⟩, ⟨"alice", 7⟩, ⟨"bob", 0⟩] : List Cw20Coin),
        sampleApi.addrValidate row.address = .ok ⟨row.address⟩ := by decide
    exact ⟨_, accepted row member⟩
  rcases listed.1.mpr creatable with ⟨sum, after, returned⟩
  exact ⟨sum, after, returned, listed.2.1 sum after returned⟩

end DemurrageToken.Properties
