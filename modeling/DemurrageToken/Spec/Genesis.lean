import DemurrageToken.Contract.System
import DemurrageToken.Spec.Updates

/-!
Contract: the storage a successful `instantiate` leaves.

Owns: the account loop, which credits every listed address once, and the shape
of the initial storage.

Does not own: what happens to the storage afterwards.
-/

namespace DemurrageToken.Spec

open DemurrageToken.Library
open DemurrageToken.Library.Handler
open DemurrageToken.Library.Ledger
open DemurrageToken.Contract

/-- The host accepts `account` as it is. -/
def Validates (api : Api) (account : Addr) : Prop :=
  api.addrValidate account.asStr = .ok account

theorem validates_of_addrValidate {api : Api} {human : String} {account : Addr}
    (valid : api.addrValidate human = .ok account) : Validates api account :=
  api.addrValidate_asStr valid

/-! ## The listed accounts -/

/-- In an ascending list, neighbours that differ make it strictly ascending. -/
private theorem strictly_ascending {names : List String} (ascending : names.Pairwise (· ≤ ·))
    (changing : names.IsChain (· ≠ ·)) : names.Pairwise (· < ·) := by
  induction names with
  | nil => exact List.Pairwise.nil
  | cons head tail inductionHypothesis =>
      rw [List.pairwise_cons] at ascending
      rw [List.isChain_cons] at changing
      have tailAscending := inductionHypothesis ascending.2 changing.2
      rw [List.pairwise_cons]
      refine ⟨?_, tailAscending⟩
      cases tail with
      | nil =>
          intro later member
          cases member
      | cons second rest =>
          have first : head < second :=
            lt_of_le_of_ne (ascending.1 second List.mem_cons_self) (changing.1 second rfl)
          intro later member
          rcases List.mem_cons.mp member with rfl | member
          · exact first
          · exact first.trans ((List.pairwise_cons.mp tailAscending).1 later member)

/-- Sorting brings equal addresses together, so a list that `dedup` leaves at
its length has no address twice. -/
theorem nodup_of_distinctAddresses {accounts : List Cw20Coin}
    (distinct : (distinctAddresses accounts).length = accounts.length) :
    (accounts.map Cw20Coin.address).Nodup := by
  let sorted := (accounts.map Cw20Coin.address).insertionSort (· ≤ ·)
  have sortedLength : sorted.length = accounts.length := by
    rw [List.length_insertionSort, List.length_map]
  have unchanged : sorted.destutter (· ≠ ·) = sorted := by
    apply (List.destutter_sublist (· ≠ ·) sorted).eq_of_length
    rw [sortedLength]
    exact distinct
  have changing : sorted.IsChain (· ≠ ·) := List.destutter_eq_self_iff _ _ |>.mp unchanged
  have ascending : sorted.Pairwise (· ≤ ·) := List.pairwise_insertionSort (· ≤ ·) _
  have nodup : sorted.Nodup := (strictly_ascending ascending changing).imp fun less => less.ne
  exact (List.perm_insertionSort (· ≤ ·) _).nodup_iff.mp nodup

theorem distinctAddresses_of_nodup {accounts : List Cw20Coin}
    (nodup : (accounts.map Cw20Coin.address).Nodup) :
    (distinctAddresses accounts).length = accounts.length := by
  unfold distinctAddresses
  have sorted : ((accounts.map Cw20Coin.address).insertionSort (· ≤ ·)).Nodup :=
    (List.perm_insertionSort (· ≤ ·) _).nodup_iff.mpr nodup
  have changing : ((accounts.map Cw20Coin.address).insertionSort (· ≤ ·)).IsChain (· ≠ ·) :=
    List.Pairwise.isChain sorted
  rw [(List.destutter_eq_self_iff _ _).mpr changing, List.length_insertionSort, List.length_map]

theorem distinctAddresses_iff_nodup {accounts : List Cw20Coin} :
    (distinctAddresses accounts).length = accounts.length ↔
      (accounts.map Cw20Coin.address).Nodup :=
  ⟨nodup_of_distinctAddresses, distinctAddresses_of_nodup⟩

theorem returns_createAccount {api : Api} {supply sum : U128} {row : Cw20Coin}
    {before after : Storage} :
    Returns (createAccount api supply row) before sum after ↔
      ∃ account, api.addrValidate row.address = .ok account ∧
        supply.toNat + row.amount.toNat = sum.toNat ∧
        { before with balances := before.balances.insert account row.amount } = after := by
  simp only [createAccount, returns_bind, returns_addrValidate, Map.returns_save,
    returns_checked, Checked.add_eq_some]
  constructor
  · intro found
    rcases found with ⟨account, _, ⟨valid, rfl⟩, _, _, rfl, added, rfl⟩
    exact ⟨account, valid, added, rfl⟩
  · intro found
    rcases found with ⟨account, valid, added, rfl⟩
    exact ⟨account, before, ⟨valid, rfl⟩, (), _, rfl, added, rfl⟩

/-- The listed rows as entries of the balances. -/
def listedEntries (accounts : List Cw20Coin) : List (Addr × U128) :=
  accounts.map fun row => (⟨row.address⟩, row.amount)

/-- What the listed rows add up to. -/
def listedTotal (accounts : List Cw20Coin) : Nat :=
  (accounts.map fun row => row.amount.toNat).sum

/-- The loop of `create_accounts` enters every row: it returns exactly when all
addresses validate and the running supply reaches the sum. -/
theorem returns_createAccounts_loop {api : Api} {rows : List Cw20Coin} :
    ∀ {supply sum : U128} {before after : Storage},
      Returns (rows.foldlM (createAccount api) supply) before sum after ↔
        (∀ row ∈ rows, ∃ account, api.addrValidate row.address = .ok account) ∧
          supply.toNat + listedTotal rows = sum.toNat ∧
          { before with balances := before.balances.insertMany (listedEntries rows) } = after := by
  induction rows with
  | nil =>
      intro supply sum before after
      have nothing : supply.toNat + listedTotal [] = sum.toNat ↔ supply = sum :=
        BitVec.toNat_eq.symm
      rw [nothing]
      show Returns (pure supply) before sum after ↔ _
      rw [returns_pure]
      constructor
      · intro same
        refine ⟨?_, same⟩
        intro row member
        cases member
      · intro found
        exact found.2
  | cons row rest inductionHypothesis =>
      intro supply sum before after
      have listed : listedTotal (row :: rest) = row.amount.toNat + listedTotal rest := rfl
      have firstRow : before.balances.insertMany (listedEntries (row :: rest)) =
          (before.balances.insert ⟨row.address⟩ row.amount).insertMany (listedEntries rest) :=
        Std.ExtTreeMap.insertMany_cons
      rw [List.foldlM_cons, returns_bind, List.forall_mem_cons, listed, firstRow]
      constructor
      · intro found
        rcases found with ⟨raised, middle, saved, looped⟩
        rcases returns_createAccount.mp saved with ⟨account, valid, added, entered⟩
        rcases inductionHypothesis.mp looped with ⟨othersValid, reached, result⟩
        obtain rfl := api.addrValidate_eq valid
        refine ⟨⟨⟨_, valid⟩, othersValid⟩, by omega, ?_⟩
        rw [← result, ← entered]
      · intro found
        rcases found with ⟨⟨⟨account, valid⟩, othersValid⟩, reached, result⟩
        have bound := sum.isLt
        obtain ⟨raised, added⟩ : ∃ raised : U128,
            supply.toNat + row.amount.toNat = raised.toNat := Checked.word_exists (by omega)
        obtain rfl := api.addrValidate_eq valid
        refine ⟨raised, _, returns_createAccount.mpr ⟨_, valid, added, rfl⟩, ?_⟩
        exact inductionHypothesis.mpr ⟨othersValid, by omega, result⟩

/-- `create_accounts` returns exactly for distinct valid addresses, with the sum
of their amounts, and enters every row. -/
theorem returns_createAccounts_iff {api : Api} {accounts : List Cw20Coin} {sum : U128}
    {before after : Storage} :
    Returns (createAccounts api accounts) before sum after ↔
      (accounts.map Cw20Coin.address).Nodup ∧
        (∀ row ∈ accounts, ∃ account, api.addrValidate row.address = .ok account) ∧
        listedTotal accounts = sum.toNat ∧
        { before with
          balances := before.balances.insertMany (listedEntries accounts) } = after := by
  have start : (0 : U128).toNat + listedTotal accounts = listedTotal accounts := Nat.zero_add _
  simp only [createAccounts, validateAccounts, returns_bind, returns_reject,
    returns_createAccounts_loop, start, ne_eq, not_not, distinctAddresses_iff_nodup]
  constructor
  · intro found
    rcases found with ⟨_, _, ⟨distinct, rfl⟩, looped⟩
    exact ⟨distinct, looped⟩
  · intro found
    exact ⟨(), before, ⟨found.1, rfl⟩, found.2⟩

theorem listedEntries_keys (accounts : List Cw20Coin) :
    (listedEntries accounts).map Prod.fst =
      (accounts.map Cw20Coin.address).map Addr.mk := by
  simp [listedEntries]

/-- Distinct address strings are distinct keys of the balances. -/
theorem listedEntries_nodup {accounts : List Cw20Coin}
    (distinct : (accounts.map Cw20Coin.address).Nodup) :
    ((listedEntries accounts).map Prod.fst).Nodup := by
  rw [listedEntries_keys]
  apply distinct.map
  intro left right same
  exact congrArg Addr.asStr same

theorem mem_insertMany_listedEntries {accounts : List Cw20Coin} {account : Addr}
    {before : Balances} :
    account ∈ before.insertMany (listedEntries accounts) ↔
      account ∈ before ∨ ∃ row ∈ accounts, row.address = account.asStr := by
  rw [Std.ExtTreeMap.mem_insertMany_list, List.contains_iff_mem, listedEntries_keys]
  have sameKey : ∀ address : String, Addr.mk address = account ↔ address = account.asStr := by
    intro address
    cases account
    exact Addr.mk.injEq _ _ ▸ Iff.rfl
  simp [sameKey]

/-- No later row overwrites an earlier one. -/
theorem getElem?_insertMany_listedEntries {accounts : List Cw20Coin} {row : Cw20Coin}
    {before : Balances} (distinct : (accounts.map Cw20Coin.address).Nodup)
    (member : row ∈ accounts) :
    (before.insertMany (listedEntries accounts))[(⟨row.address⟩ : Addr)]? = some row.amount := by
  apply Std.ExtTreeMap.getElem?_insertMany_list_of_mem Std.ReflCmp.compare_self
  · have keys := List.pairwise_map.mp (listedEntries_nodup distinct)
    apply keys.imp
    intro left right different same
    exact different (Std.LawfulEqCmp.eq_of_compare same)
  · exact List.mem_map_of_mem (f := fun row : Cw20Coin => (Addr.mk row.address, row.amount)) member

/-- Entered into empty balances, the rows are the whole total. -/
theorem total_insertMany_listedEntries {accounts : List Cw20Coin} {before : Balances}
    (unspent : before = ∅) (distinct : (accounts.map Cw20Coin.address).Nodup) :
    total (before.insertMany (listedEntries accounts)) = listedTotal accounts := by
  have sum := @total_insertMany _ _ _ _ _ _ before (listedEntries_nodup distinct) ?_
  · rw [sum, unspent, total_empty, Nat.zero_add, listedEntries, List.map_map]
    rfl
  · intro entry _
    rw [unspent]
    exact Std.ExtTreeMap.not_mem_empty

/-- What the loop of `create_accounts` keeps: only balances were written, every
account validates, and the running supply is the total. -/
structure Created (api : Api) (start : Storage) (supply : U128) (storage : Storage) : Prop where
  frame : storage = { start with balances := storage.balances }
  within : Within storage.balances (Validates api)
  supplied : total storage.balances = supply.toNat

theorem returns_createAccounts {api : Api} {accounts : List Cw20Coin} {sum : U128}
    {before after : Storage} (unspent : before.balances = ∅)
    (returned : Returns (createAccounts api accounts) before sum after) :
    Created api before sum after := by
  rcases returns_createAccounts_iff.mp returned with ⟨distinct, valid, listed, rfl⟩
  refine ⟨rfl, ?_, ?_⟩
  · intro account member
    rcases mem_insertMany_listedEntries.mp member with earlier | found
    · rw [unspent] at earlier
      exact absurd earlier Std.ExtTreeMap.not_mem_empty
    · rcases found with ⟨row, listedRow, sameAddress⟩
      rcases valid row listedRow with ⟨validated, accepted⟩
      obtain rfl := api.addrValidate_eq accepted
      rw [Validates, ← sameAddress, accepted]
      exact congrArg Except.ok (congrArg Addr.mk sameAddress)
  · rw [← listed]
    exact total_insertMany_listedEntries unspent distinct

theorem createAccounts_exists {api : Api} {accounts : List Cw20Coin} {before : Storage}
    (distinct : (accounts.map Cw20Coin.address).Nodup)
    (valid : ∀ row ∈ accounts, ∃ account, api.addrValidate row.address = .ok account)
    (fits : (accounts.map fun row => row.amount.toNat).sum < 2 ^ 128) :
    ∃ sum after, Returns (createAccounts api accounts) before sum after ∧
      sum.toNat = (accounts.map fun row => row.amount.toNat).sum := by
  rcases @Checked.word_exists 128 _ fits with ⟨sum, listed⟩
  exact ⟨sum, _, returns_createAccounts_iff.mpr ⟨distinct, valid, listed, rfl⟩, listed.symm⟩

/-! ## The initial storage -/

theorem exceeds_eq_false_iff {supply : U128} {cap : Option U128} :
    exceeds supply cap = false ↔ ∀ limit, cap = some limit → supply.toNat ≤ limit.toNat := by
  cases cap with
  | none => simp [exceeds]
  | some limit => simp [exceeds]

/-- The minter that instantiation stores for the one in the message. -/
inductive Appoints (api : Api) : Option MinterResponse → Option MinterData → Prop where
  | nobody : Appoints api none none
  | minter {mint : MinterResponse} {minter : Addr}
      (valid : api.addrValidate mint.minter = .ok minter) :
      Appoints api (some mint) (some { minter, cap := mint.cap })

theorem appoints_exists {api : Api} {mint : Option MinterResponse}
    (valid : ∀ named ∈ mint, ∃ minter, api.addrValidate named.minter = .ok minter) :
    ∃ role, Appoints api mint role := by
  cases mint with
  | none => exact ⟨none, .nobody⟩
  | some named =>
      rcases valid named rfl with ⟨minter, validated⟩
      exact ⟨_, .minter validated⟩

theorem returns_validateMint {api : Api} {mint : Option MinterResponse}
    {role : Option MinterData} {before after : Storage} :
    Returns (validateMint api mint) before role after ↔
      Appoints api mint role ∧ before = after := by
  cases mint with
  | none =>
      simp only [validateMint, returns_pure]
      constructor
      · intro found
        rcases found with ⟨rfl, rfl⟩
        exact ⟨.nobody, rfl⟩
      · intro found
        rcases found with ⟨appoints, rfl⟩
        cases appoints
        exact ⟨rfl, rfl⟩
  | some mint =>
      simp only [validateMint, returns_bind, returns_addrValidate, returns_pure]
      constructor
      · intro found
        rcases found with ⟨minter, _, ⟨valid, rfl⟩, rfl, rfl⟩
        exact ⟨.minter valid, rfl⟩
      · intro found
        rcases found with ⟨appoints, rfl⟩
        cases appoints with
        | minter valid => exact ⟨_, before, ⟨valid, rfl⟩, rfl, rfl⟩

/-- What a successful `instantiate` leaves: the listed balances, their sum as
the supply, and a demurrage record that starts now with the full modifier. -/
inductive Instantiates (api : Api) (env : Env) (msg : InstantiateMsg) (storage : Storage) :
    Prop where
  | intro {accounts : Balances} {totalSupply : U128} {periodDuration : U64}
      {minimumParticipantSpend : U32} {mint : Option MinterData}
      (within : Within accounts (Validates api))
      (supplied : total accounts = totalSupply.toNat)
      (duration : msg.periodMinutes.toNat * 60 = periodDuration.toNat)
      (capped : exceeds totalSupply msg.getCap = false)
      (appoints : Appoints api msg.mint mint)
      (result : storage = {
        contractInfo := some ⟨"crates.io:cw20-base", "0.1.0"⟩
        tokenInfo := some {
          name := msg.name
          symbol := msg.symbol
          decimals := msg.decimals
          totalSupply
          mint }
        state := some {
          startTimestamp := env.block.time
          demurrageTimestamp := env.block.time
          periodMinute := periodDuration
          currentPeriod := 0
          demurrageAmount := 100000000000000000000000
          sinkAddress := msg.sinkAddress
          minimumParticipantSpend
          taxLevel := msg.taxLevelMinute }
        balances := accounts
        allowances := ∅ })

theorem instantiates_of_returns {api : Api} {env : Env} {msg : InstantiateMsg}
    {response : Response} {storage : Storage}
    (returned : Returns (instantiate api env msg) {} response storage) :
    Instantiates api env msg storage := by
  simp only [instantiate, returns_bind, Item.returns_save, returns_fromResult, returns_checked,
    returns_reject, returns_validateMint, returns_pure, Checked.mul_eq_some, and_assoc,
    exists_and_left, exists_eq_left', exists_const] at returned
  rcases returned with ⟨_, _, totalSupply, created, accountsCreated, periodDuration, duration,
    capped, minimumParticipantSpend, _, mint, appoints, _, rfl⟩
  rcases returns_createAccounts rfl accountsCreated with ⟨frame, within, supplied⟩
  rw [frame]
  exact .intro within supplied duration (Bool.eq_false_of_not_eq_true capped) appoints rfl

/-- `instantiate` returns where each of its parts does, and stores the records. -/
theorem returns_instantiate {api : Api} {env : Env} {msg : InstantiateMsg} {totalSupply : U128}
    {created : Storage} {periodDuration : U64} {minimumParticipantSpend : U32}
    {mint : Option MinterData} (validated : msg.validate = .ok ())
    (accounts : Returns (createAccounts api msg.initialBalances)
      { contractInfo := some ⟨"crates.io:cw20-base", "0.1.0"⟩ } totalSupply created)
    (duration : msg.periodMinutes.toNat * 60 = periodDuration.toNat)
    (capped : exceeds totalSupply msg.getCap = false)
    (power : 10 ^ msg.decimals.toNat = minimumParticipantSpend.toNat)
    (appoints : Appoints api msg.mint mint) :
    Returns (instantiate api env msg) {} {} { created with
      tokenInfo := some {
        name := msg.name
        symbol := msg.symbol
        decimals := msg.decimals
        totalSupply
        mint }
      state := some {
        startTimestamp := env.block.time
        demurrageTimestamp := env.block.time
        periodMinute := periodDuration
        currentPeriod := 0
        demurrageAmount := 100000000000000000000000
        sinkAddress := msg.sinkAddress
        minimumParticipantSpend
        taxLevel := msg.taxLevelMinute } } := by
  have multiplied : Checked.mul msg.periodMinutes 60 = some periodDuration :=
    Checked.mul_eq_some.mpr duration
  have raised : Checked.pow (10 : U32) msg.decimals.toNat = some minimumParticipantSpend :=
    Checked.pow_eq_some.mpr power
  have under : ¬ exceeds totalSupply msg.getCap = true := by
    rw [capped]
    exact Bool.false_ne_true
  simp only [instantiate, returns_bind, Item.returns_save, returns_fromResult, returns_checked,
    returns_reject, returns_validateMint, returns_pure, validated, and_assoc, exists_and_left,
    exists_eq_left', exists_const]
  exact ⟨(), rfl, totalSupply, created, accounts, periodDuration, multiplied, under,
    minimumParticipantSpend, raised, mint, appoints, trivial, rfl⟩

end DemurrageToken.Spec
