import DemurrageToken.Spec.Bookkeeping

/-!
Contract: the messages as operations on the books.

Owns: for each movement, each use of an allowance and each message, that it
succeeds exactly where the books admit it, and that it leaves a storage that
keeps the books after it.

Does not own: runs.
-/

namespace DemurrageToken.Spec

open DemurrageToken.Library
open DemurrageToken.Library.Ledger
open DemurrageToken.Contract

variable {api : Api} {genesis : Genesis} {before after : Storage} {books : Books}
  {now : Timestamp} {owner : Addr} {amount : U128}

/-! ## Debits and credits in sequence -/

/-- An amount that leaves one account and one that reaches another. -/
theorem moved_of {funds debited credited : Balances} {recipient : Addr} {paid : Nat}
    {holdings : Holdings Addr} (same : Holdings.ofLedger funds = holdings)
    (debits : Debits funds owner amount.toNat debited)
    (credits : Credits debited recipient paid credited) :
    amount.toNat ≤ holdings.balance owner ∧
      (holdings.debit owner amount.toNat).balance recipient + paid < 2 ^ 128 ∧
      Holdings.ofLedger credited = (holdings.debit owner amount.toNat).credit recipient paid := by
  subst same
  obtain ⟨covered, taken⟩ := Holdings.debits_iff.mp debits
  obtain ⟨fits, given⟩ := Holdings.credits_iff.mp credits
  rw [taken] at fits given
  exact ⟨covered, fits, given⟩

theorem moves_exists {funds : Balances} {recipient : Addr} {paid : Nat}
    {holdings : Holdings Addr} (same : Holdings.ofLedger funds = holdings)
    (covered : amount.toNat ≤ holdings.balance owner)
    (fits : (holdings.debit owner amount.toNat).balance recipient + paid < 2 ^ 128) :
    ∃ debited credited, Debits funds owner amount.toNat debited ∧
      Credits debited recipient paid credited := by
  subst same
  obtain ⟨debited, debits⟩ := Holdings.debits_exists covered
  rw [← (Holdings.debits_iff.mp debits).2] at fits
  obtain ⟨credited, credits⟩ := Holdings.credits_exists fits
  exact ⟨debited, credited, debits, credits⟩

/-! ## The three movements -/

theorem Keeps.of_transfers {recipient : String} (keeps : Keeps genesis before books)
    (transfers : Transfers api now owner recipient amount before after) :
    books.Transferable api genesis now owner ⟨recipient⟩ amount.toNat ∧
      Keeps genesis after
        (books.transfer api genesis now owner ⟨recipient⟩ amount.toNat) := by
  obtain ⟨config, stored, token⟩ := keeps.token
  obtain ⟨saved, advances, redistributes, converted, valid, debits, credits, rfl⟩ := transfers
  have record := keeps.recordOf saved
  rw [stored] at redistributes
  obtain ⟨chargeable, charged⟩ :=
    charged_of token record keeps.holdings keeps.bounded advances redistributes
  obtain ⟨known, rfl⟩ := validates_iff.mp valid
  have value := charged.record.base_eq converted
  rw [value] at credits
  obtain ⟨covered, fits, moved⟩ := moved_of charged.holdings debits credits
  have converts := (charged.record.converts_iff charged.bounded).mp ⟨_, converted⟩
  refine ⟨⟨chargeable, converts, known, covered, fits⟩, ?_⟩
  exact {
    token := ⟨config, stored, token.congr Books.charge_supply Books.charge_minter⟩
    record := ⟨_, rfl, charged.record.congr rfl rfl rfl rfl⟩
    holdings := moved
    grants := keeps.grants.trans Books.charge_grants.symm
    bounded := charged.bounded }

theorem Keeps.transfers_exists {recipient : String} (keeps : Keeps genesis before books)
    (transferable : books.Transferable api genesis now owner ⟨recipient⟩ amount.toNat) :
    ∃ after, Transfers api now owner recipient amount before after := by
  obtain ⟨config, stored, token⟩ := keeps.token
  obtain ⟨current, saved, record⟩ := keeps.record
  obtain ⟨chargeable, converts, known, covered, fits⟩ := transferable
  obtain ⟨updated, funds, advances, redistributes⟩ :=
    chargeable.exists token record keeps.holdings keeps.bounded
  have charged :=
    (charged_of token record keeps.holdings keeps.bounded advances redistributes).2
  obtain ⟨base, converted⟩ := (charged.record.converts_iff charged.bounded).mpr converts
  rw [← charged.record.base_eq converted] at fits
  obtain ⟨debited, credited, debits, credits⟩ := moves_exists charged.holdings covered fits
  rw [← stored] at redistributes
  exact ⟨_, .intro saved advances redistributes converted (validates_iff.mpr ⟨known, rfl⟩)
    debits credits rfl⟩

theorem Keeps.of_sends {contract : String} (keeps : Keeps genesis before books)
    (sends : Sends api owner contract amount before after) :
    books.Sendable api owner ⟨contract⟩ amount.toNat ∧
      Keeps genesis after (books.send owner ⟨contract⟩ amount.toNat) := by
  obtain ⟨⟨config, stored, token⟩, ⟨current, saved, record⟩, holdings, grants, bounded⟩ := keeps
  obtain ⟨valid, debits, credits, rfl⟩ := sends
  obtain ⟨known, rfl⟩ := validates_iff.mp valid
  obtain ⟨covered, fits, moved⟩ := moved_of holdings debits credits
  refine ⟨⟨known, covered, fits⟩, ?_⟩
  exact {
    token := ⟨config, stored, token.congr rfl rfl⟩
    record := ⟨current, saved, record.congr rfl rfl rfl rfl⟩
    holdings := moved
    grants := grants
    bounded := bounded }

theorem Keeps.sends_exists {contract : String} (keeps : Keeps genesis before books)
    (sendable : books.Sendable api owner ⟨contract⟩ amount.toNat) :
    ∃ after, Sends api owner contract amount before after := by
  obtain ⟨known, covered, fits⟩ := sendable
  obtain ⟨debited, credited, debits, credits⟩ := moves_exists keeps.holdings covered fits
  exact ⟨_, .intro (validates_iff.mpr ⟨known, rfl⟩) debits credits rfl⟩

theorem Keeps.of_burns (keeps : Keeps genesis before books)
    (burns : BurnsTokens owner amount before after) :
    books.Burnable owner amount.toNat ∧
      Keeps genesis after (books.burn owner amount.toNat) := by
  obtain ⟨current, saved, record⟩ := keeps.record
  obtain ⟨debits, stored, ⟨supply, difference, rfl⟩, rfl⟩ := burns
  have token := keeps.tokenOf stored
  obtain ⟨covered, taken⟩ := Holdings.debits_iff.mp debits
  rw [keeps.holdings] at covered taken
  rw [token.supply] at difference
  refine ⟨⟨covered, by omega⟩, ?_⟩
  have left : supply.toNat = books.supply - amount.toNat := by omega
  exact {
    token := ⟨_, rfl, token.name, token.symbol, token.decimals, left, token.mint⟩
    record := ⟨current, saved, record.congr rfl rfl rfl rfl⟩
    holdings := taken
    grants := keeps.grants
    bounded := keeps.bounded }

theorem Keeps.burns_exists (keeps : Keeps genesis before books)
    (burnable : books.Burnable owner amount.toNat) :
    ∃ after, BurnsTokens owner amount before after := by
  obtain ⟨config, stored, token⟩ := keeps.token
  obtain ⟨covered, supplied⟩ := burnable
  rw [← keeps.holdings] at covered
  obtain ⟨debited, debits⟩ := Holdings.debits_exists covered
  have bound := config.totalSupply.isLt
  rw [← token.supply] at supplied
  obtain ⟨supply, difference⟩ :
      ∃ supply : U128, config.totalSupply.toNat - amount.toNat = supply.toNat :=
    Checked.word_exists (by omega)
  exact ⟨_, .intro debits stored ⟨supply, by omega, rfl⟩ rfl⟩

/-! ## Allowances -/

section Allowances

variable {allowed drawn : Allowances} {key : Addr × Addr}

theorem grantsOf_insert (allowed : Allowances) (key : Addr × Addr) (entry : AllowanceResponse) :
    grantsOf (allowed.insert key entry) =
      Function.update (grantsOf allowed) key (some ⟨entry.allowance.toNat, entry.expires⟩) := by
  funext pair
  unfold grantsOf
  by_cases same : pair = key
  · subst same
    rw [Function.update_self, Std.ExtTreeMap.getElem?_insert_self, Option.map_some]
  · rw [Function.update_of_ne same, getElem?_insert_of_ne same]

theorem grantsOf_erase (allowed : Allowances) (key : Addr × Addr) :
    grantsOf (allowed.erase key) = Function.update (grantsOf allowed) key none := by
  funext pair
  unfold grantsOf
  by_cases same : pair = key
  · subst same
    rw [Function.update_self, Std.ExtTreeMap.getElem?_erase_self, Option.map_none]
  · rw [Function.update_of_ne same, getElem?_erase_of_ne same]

theorem grantsOf_eq_some {entry : AllowanceResponse} (present : allowed[key]? = some entry) :
    grantsOf allowed key = some ⟨entry.allowance.toNat, entry.expires⟩ := by
  rw [grantsOf, present, Option.map_some]

/-- The entry of the books for a stored one, the default included. -/
theorem grantsOf_getD (allowed : Allowances) (key : Addr × Addr) :
    (grantsOf allowed key).getD default =
      ⟨(allowed[key]?.getD default).allowance.toNat, (allowed[key]?.getD default).expires⟩ := by
  unfold grantsOf
  cases allowed[key]? <;> rfl

end Allowances

/-- Where only the grants change. -/
theorem Keeps.withGrants {allowed : Allowances}
    {grants : Addr × Addr → Option (Allowance.Entry Expiration)}
    (keeps : Keeps genesis before books) (same : grantsOf allowed = grants) :
    Keeps genesis { before with allowances := allowed } { books with grants } := by
  obtain ⟨⟨config, stored, token⟩, ⟨current, saved, record⟩, holdings, _, bounded⟩ := keeps
  exact {
    token := ⟨config, stored, token.congr rfl rfl⟩
    record := ⟨current, saved, record.congr rfl rfl rfl rfl⟩
    holdings := holdings
    grants := same
    bounded := bounded }

theorem Keeps.of_draws {block : BlockInfo} {human : String} {spender ownerAddr : Addr}
    {drawn : Storage} (keeps : Keeps genesis before books)
    (draws : DrawsFrom api block human spender amount before ownerAddr drawn) :
    ownerAddr = ⟨human⟩ ∧ books.Drawable api block (⟨human⟩, spender) amount.toNat ∧
      Keeps genesis drawn (books.draw (⟨human⟩, spender) amount.toNat) := by
  obtain ⟨valid, entry, left, present, fresh, difference, rfl⟩ := draws
  obtain ⟨known, rfl⟩ := validates_iff.mp valid
  have granted := grantsOf_eq_some present
  have remaining : entry.allowance.toNat - amount.toNat = left.toNat := by omega
  have covered : amount.toNat ≤ entry.allowance.toNat := by omega
  refine ⟨rfl, ⟨known, _, keeps.grants ▸ granted, fresh, covered⟩, ?_⟩
  apply keeps.withGrants
  rw [grantsOf_insert, ← keeps.grants, granted, Option.map_some, Allowance.Entry.apply,
    remaining]

theorem Keeps.draws_exists {block : BlockInfo} {human : String} {spender : Addr}
    (keeps : Keeps genesis before books)
    (drawable : books.Drawable api block (⟨human⟩, spender) amount.toNat) :
    ∃ drawn, DrawsFrom api block human spender amount before ⟨human⟩ drawn := by
  obtain ⟨known, entry, granted, fresh, covered⟩ := drawable
  rw [← keeps.grants, grantsOf, Option.map_eq_some_iff] at granted
  obtain ⟨stored, present, rfl⟩ := granted
  obtain ⟨drawn, draws⟩ := draws_exists_iff.mpr ⟨stored, present, fresh, covered⟩
  exact ⟨_, .intro (validates_iff.mpr ⟨known, rfl⟩) draws⟩

theorem Keeps.of_grants {key : Addr × Addr} {current : State} {base : U128}
    {expires : Option Expiration} {granted : Allowances} (keeps : Keeps genesis before books)
    (stored : before.state = some current)
    (converted : toBaseAmount amount current.demurrageAmount = some base)
    (grants : Grants key (amount.toNat + base.toNat) expires before.allowances granted) :
    books.Converts amount.toNat ∧
      ((books.grants key).getD default).amount + (amount.toNat + books.base amount.toNat) <
        2 ^ 128 ∧
      Keeps genesis { before with allowances := granted }
        (books.grant key amount.toNat expires) := by
  have record := keeps.recordOf stored
  obtain ⟨allowance, raised, rfl⟩ := grants
  have held := grantsOf_getD before.allowances key
  have value := record.base_eq converted
  rw [keeps.grants] at held
  rw [value] at raised
  refine ⟨(record.converts_iff keeps.bounded).mp ⟨base, converted⟩, ?_, ?_⟩
  · rw [held, raised]
    exact allowance.isLt
  · apply keeps.withGrants
    rw [grantsOf_insert, keeps.grants, held, ← raised]
    rfl

theorem Keeps.grants_exists {key : Addr × Addr} (keeps : Keeps genesis before books)
    (expires : Option Expiration) (converts : books.Converts amount.toNat)
    (fits : ((books.grants key).getD default).amount +
      (amount.toNat + books.base amount.toNat) < 2 ^ 128) :
    ∃ current base granted, before.state = some current ∧
      toBaseAmount amount current.demurrageAmount = some base ∧
      Grants key (amount.toNat + base.toNat) expires before.allowances granted := by
  obtain ⟨current, saved, record⟩ := keeps.record
  obtain ⟨base, converted⟩ := (record.converts_iff keeps.bounded).mpr converts
  rw [← keeps.grants, grantsOf_getD, ← record.base_eq converted] at fits
  obtain ⟨allowance, raised⟩ := Checked.word_exists fits
  exact ⟨current, base, _, saved, converted, allowance, raised, rfl⟩

theorem Keeps.of_lowers {key : Addr × Addr} {expires : Option Expiration}
    {lowered : Allowances} (keeps : Keeps genesis before books)
    (lowers : Lowers key amount expires before.allowances lowered) :
    (books.grants key).isSome ∧
      Keeps genesis { before with allowances := lowered }
        (books.lower key amount.toNat expires) := by
  have kept := keeps.grants
  cases lowers with
  | @lowered entry allowance present covered difference =>
      have granted := grantsOf_eq_some present
      rw [kept] at granted
      have remaining : allowance.toNat = entry.allowance.toNat - amount.toNat := by omega
      refine ⟨by rw [granted]; rfl, keeps.withGrants ?_⟩
      rw [grantsOf_insert, kept, granted]
      simp only [Option.filter_some, covered, decide_true, if_true, Option.map_some,
        Allowance.Entry.apply, remaining]
  | @removed entry present exhausted =>
      have granted := grantsOf_eq_some present
      rw [kept] at granted
      refine ⟨by rw [granted]; rfl, keeps.withGrants ?_⟩
      rw [grantsOf_erase, kept, granted]
      simp only [Option.filter_some, Nat.not_lt_of_le exhausted, decide_false, Bool.false_eq_true,
        if_false, Option.map_none]

theorem Keeps.lowers_exists {key : Addr × Addr} (keeps : Keeps genesis before books)
    (amount : U128) (expires : Option Expiration) (present : (books.grants key).isSome) :
    ∃ lowered, Lowers key amount expires before.allowances lowered := by
  rw [← keeps.grants, grantsOf, Option.isSome_map] at present
  obtain ⟨entry, stored⟩ := Option.isSome_iff_exists.mp present
  by_cases covered : amount.toNat < entry.allowance.toNat
  · have bound := entry.allowance.isLt
    obtain ⟨allowance, difference⟩ :
        ∃ allowance : U128, entry.allowance.toNat - amount.toNat = allowance.toNat :=
      Checked.word_exists (by omega)
    have remaining : allowance.toNat + amount.toNat = entry.allowance.toNat := by omega
    exact ⟨_, .lowered stored covered remaining⟩
  · exact ⟨_, .removed stored (Nat.le_of_not_lt covered)⟩

/-! ## Minting -/

/-- The storage that `execute_mint` saves the supply in keeps the raised books. -/
theorem Keeps.raised {config : TokenInfo} {totalSupply : U128}
    (keeps : Keeps genesis before books) (stored : before.tokenInfo = some config)
    (sum : config.totalSupply.toNat + amount.toNat = totalSupply.toNat) :
    Keeps genesis { before with tokenInfo := some { config with totalSupply } }
      (books.raise amount.toNat) := by
  have token := keeps.tokenOf stored
  obtain ⟨current, saved, record⟩ := keeps.record
  rw [token.supply] at sum
  exact {
    token := ⟨_, rfl, token.name, token.symbol, token.decimals, sum.symm, token.mint⟩
    record := ⟨current, saved, record.congr rfl rfl rfl rfl⟩
    holdings := keeps.holdings
    grants := keeps.grants
    bounded := keeps.bounded }

theorem TokenOf.authorised_iff {config : TokenInfo} {sender : Addr}
    (token : TokenOf genesis config books) :
    (∃ role, config.mint = some role ∧ role.minter = sender) ↔ books.minter = some sender := by
  rw [token.mint]
  constructor
  · rintro ⟨_, appointed, rfl⟩
    obtain ⟨minter, named, rfl⟩ := Option.map_eq_some_iff.mp appointed
    exact named
  · intro named
    rw [named]
    exact ⟨_, rfl, rfl⟩

/-- While there is a minter, the stored cap is that of the instantiation. -/
theorem TokenOf.getCap {config : TokenInfo} {sender : Addr} (token : TokenOf genesis config books)
    (named : books.minter = some sender) : config.getCap = genesis.msg.getCap := by
  rw [TokenInfo.getCap, token.mint, named]
  rfl

theorem Keeps.of_mint {env : Env} {sender : Addr} {recipient : String}
    (keeps : Keeps genesis before books)
    (effect : Effect api env sender before after (.mint recipient amount)) :
    books.Mintable api genesis env.block.time sender ⟨recipient⟩ amount.toNat ∧
      Keeps genesis after
        (books.mint api genesis env.block.time ⟨recipient⟩ amount.toNat) := by
  cases effect with
  | @mint _ _ totalSupply base config role current updated _ _ credited nonzero stored minted
      authorised sum capped saved advances redistributes converted valid credits result =>
      have token := keeps.tokenOf stored
      have raised := keeps.raised stored sum
      have raisedToken := raised.tokenOf rfl
      have record := raised.recordOf saved
      obtain ⟨chargeable, charged⟩ :=
        charged_of raisedToken record raised.holdings raised.bounded advances redistributes
      obtain ⟨known, rfl⟩ := validates_iff.mp valid
      have value := charged.record.base_eq converted
      rw [value, Holdings.credits_iff, charged.holdings] at credits
      have named := token.authorised_iff.mp ⟨role, minted, authorised⟩
      rw [token.getCap named, exceeds_eq_false_iff, ← sum, token.supply] at capped
      have total := sum
      rw [token.supply] at total
      refine ⟨?_, ?_⟩
      · exact {
          nonzero := fun zero => nonzero (BitVec.eq_of_toNat_eq zero)
          authorised := named
          raised := total ▸ totalSupply.isLt
          capped := capped
          chargeable := chargeable
          converts := (charged.record.converts_iff charged.bounded).mp ⟨base, converted⟩
          valid := known
          fits := credits.1 }
      · rw [result]
        exact {
          token := ⟨_, rfl, raisedToken.congr Books.charge_supply Books.charge_minter⟩
          record := ⟨updated, rfl, charged.record.congr rfl rfl rfl rfl⟩
          holdings := credits.2
          grants := raised.grants.trans Books.charge_grants.symm
          bounded := charged.bounded }

theorem Keeps.mint_exists {env : Env} {sender : Addr} {recipient : String}
    (keeps : Keeps genesis before books)
    (mintable : books.Mintable api genesis env.block.time sender ⟨recipient⟩ amount.toNat) :
    ∃ after, Effect api env sender before after (.mint recipient amount) := by
  obtain ⟨nonzero, named, fits, capped, chargeable, converts, known, room⟩ := mintable
  obtain ⟨config, stored, token⟩ := keeps.token
  obtain ⟨role, minted, authorised⟩ := token.authorised_iff.mpr named
  rw [← token.supply] at fits capped
  obtain ⟨totalSupply, sum⟩ := Checked.word_exists fits
  have raised := keeps.raised stored sum
  have raisedToken := raised.tokenOf rfl
  obtain ⟨current, saved, record⟩ := raised.record
  obtain ⟨updated, funds, advances, redistributes⟩ :=
    chargeable.exists raisedToken record raised.holdings raised.bounded
  have charged :=
    (charged_of raisedToken record raised.holdings raised.bounded advances redistributes).2
  obtain ⟨base, converted⟩ := (charged.record.converts_iff charged.bounded).mpr converts
  rw [← charged.record.base_eq converted, ← charged.holdings] at room
  obtain ⟨credited, credits⟩ := Holdings.credits_exists room
  rw [sum, ← token.getCap named] at capped
  have positive : amount ≠ 0 := by
    rintro rfl
    exact nonzero rfl
  exact ⟨_, .mint positive stored minted authorised sum (exceeds_eq_false_iff.mpr capped) saved
    advances redistributes converted (validates_iff.mpr ⟨known, rfl⟩) credits rfl⟩

/-! ## The messages -/

/-- A message that succeeds is admitted by the books, and leaves a storage that keeps
the books after it. -/
theorem Keeps.of_effect {env : Env} {sender : Addr} {msg : ExecuteMsg}
    (keeps : Keeps genesis before books) (effect : Effect api env sender before after msg) :
    books.Admits api genesis env.block sender msg ∧
      Keeps genesis after (books.post api genesis env.block sender msg) := by
  cases effect with
  | transfer nonzero transfers =>
      obtain ⟨transferable, kept⟩ := keeps.of_transfers transfers
      exact ⟨⟨nonzero, transferable⟩, kept⟩
  | burn nonzero burns =>
      obtain ⟨burnable, kept⟩ := keeps.of_burns burns
      exact ⟨⟨nonzero, burnable⟩, kept⟩
  | send nonzero sends =>
      obtain ⟨sendable, kept⟩ := keeps.of_sends sends
      exact ⟨⟨nonzero, sendable⟩, kept⟩
  | increaseAllowance valid distinct stored converted grants result =>
      obtain ⟨known, rfl⟩ := validates_iff.mp valid
      obtain ⟨converts, fits, kept⟩ := keeps.of_grants stored converted grants
      rw [result]
      exact ⟨⟨known, distinct, converts, fits⟩, kept⟩
  | decreaseAllowance valid distinct lowers result =>
      obtain ⟨known, rfl⟩ := validates_iff.mp valid
      obtain ⟨present, kept⟩ := keeps.of_lowers lowers
      rw [result]
      exact ⟨⟨known, distinct, present⟩, kept⟩
  | transferFrom draws transfers =>
      obtain ⟨rfl, drawable, drawn⟩ := keeps.of_draws draws
      obtain ⟨transferable, kept⟩ := drawn.of_transfers transfers
      exact ⟨⟨drawable, transferable⟩, kept⟩
  | sendFrom draws sends =>
      obtain ⟨rfl, drawable, drawn⟩ := keeps.of_draws draws
      obtain ⟨sendable, kept⟩ := drawn.of_sends sends
      exact ⟨⟨drawable, sendable⟩, kept⟩
  | burnFrom draws burns =>
      obtain ⟨rfl, drawable, drawn⟩ := keeps.of_draws draws
      obtain ⟨burnable, kept⟩ := drawn.of_burns burns
      exact ⟨⟨drawable, burnable⟩, kept⟩
  | mint nonzero stored minted authorised sum capped saved advances redistributes converted valid
      credits result =>
      exact keeps.of_mint (.mint nonzero stored minted authorised sum capped saved advances
        redistributes converted valid credits result)
  | updateMinter stored minted authorised valid result =>
      have token := keeps.tokenOf stored
      obtain ⟨current, saved, record⟩ := keeps.record
      obtain ⟨known, rfl⟩ := validates_iff.mp valid
      have named := token.authorised_iff.mp ⟨_, minted, authorised⟩
      have cap := token.getCap named
      rw [TokenInfo.getCap, minted, Option.bind_some] at cap
      rw [result, cap]
      refine ⟨⟨named, known⟩, ?_⟩
      exact {
        token := ⟨_, rfl, token.name, token.symbol, token.decimals, token.supply, rfl⟩
        record := ⟨current, saved, record.congr rfl rfl rfl rfl⟩
        holdings := keeps.holdings
        grants := keeps.grants
        bounded := keeps.bounded }
  | changeSinkAddress stored result =>
      obtain ⟨config, present, token⟩ := keeps.token
      have record := keeps.recordOf stored
      rw [result]
      refine ⟨trivial, ?_⟩
      exact {
        token := ⟨config, present, token.congr rfl rfl⟩
        record := ⟨_, rfl, record.started, record.charged, record.minute, record.periods,
          record.modifier, rfl, record.taxLevel⟩
        holdings := keeps.holdings
        grants := keeps.grants
        bounded := keeps.bounded }
  | changeTaxLevel stored result =>
      obtain ⟨config, present, token⟩ := keeps.token
      have record := keeps.recordOf stored
      rw [result]
      refine ⟨trivial, ?_⟩
      exact {
        token := ⟨config, present, token.congr rfl rfl⟩
        record := ⟨_, rfl, record.started, record.charged, record.minute, record.periods,
          record.modifier, record.sink, rfl⟩
        holdings := keeps.holdings
        grants := keeps.grants
        bounded := keeps.bounded }

/-- A message that the books admit succeeds. -/
theorem Keeps.effect_exists {env : Env} {sender : Addr} {msg : ExecuteMsg}
    (keeps : Keeps genesis before books)
    (admits : books.Admits api genesis env.block sender msg) :
    ∃ after, Effect api env sender before after msg := by
  cases msg with
  | transfer recipient amount =>
      obtain ⟨after, transfers⟩ := keeps.transfers_exists admits.2
      exact ⟨after, .transfer admits.1 transfers⟩
  | burn amount =>
      obtain ⟨after, burns⟩ := keeps.burns_exists admits.2
      exact ⟨after, .burn admits.1 burns⟩
  | send contract amount msg =>
      obtain ⟨after, sends⟩ := keeps.sends_exists admits.2
      exact ⟨after, .send admits.1 sends⟩
  | increaseAllowance spender amount expires =>
      obtain ⟨known, distinct, converts, fits⟩ := admits
      obtain ⟨current, base, granted, saved, converted, grants⟩ :=
        keeps.grants_exists expires converts fits
      exact ⟨_, .increaseAllowance (validates_iff.mpr ⟨known, rfl⟩) distinct saved converted
        grants rfl⟩
  | decreaseAllowance spender amount expires =>
      obtain ⟨known, distinct, present⟩ := admits
      obtain ⟨lowered, lowers⟩ := keeps.lowers_exists amount expires present
      exact ⟨_, .decreaseAllowance (validates_iff.mpr ⟨known, rfl⟩) distinct lowers rfl⟩
  | transferFrom owner recipient amount =>
      obtain ⟨drawn, draws⟩ := keeps.draws_exists admits.1
      obtain ⟨after, transfers⟩ := (keeps.of_draws draws).2.2.transfers_exists admits.2
      exact ⟨after, .transferFrom draws transfers⟩
  | sendFrom owner contract amount msg =>
      obtain ⟨drawn, draws⟩ := keeps.draws_exists admits.1
      obtain ⟨after, sends⟩ := (keeps.of_draws draws).2.2.sends_exists admits.2
      exact ⟨after, .sendFrom draws sends⟩
  | burnFrom owner amount =>
      obtain ⟨drawn, draws⟩ := keeps.draws_exists admits.1
      obtain ⟨after, burns⟩ := (keeps.of_draws draws).2.2.burns_exists admits.2
      exact ⟨after, .burnFrom draws burns⟩
  | mint recipient amount => exact keeps.mint_exists admits
  | updateMinter newMinter =>
      obtain ⟨config, stored, token⟩ := keeps.token
      obtain ⟨role, minted, authorised⟩ := token.authorised_iff.mpr admits.1
      exact ⟨_, .updateMinter stored minted authorised (validates_iff.mpr ⟨admits.2, rfl⟩) rfl⟩
  | changeSinkAddress address =>
      obtain ⟨current, saved, _⟩ := keeps.record
      exact ⟨_, .changeSinkAddress saved rfl⟩
  | changeTaxLevel amount =>
      obtain ⟨current, saved, _⟩ := keeps.record
      exact ⟨_, .changeTaxLevel saved rfl⟩

end DemurrageToken.Spec
