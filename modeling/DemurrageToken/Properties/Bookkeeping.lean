import DemurrageToken.Contract.Replay
import DemurrageToken.Properties.Instantiation
import DemurrageToken.Spec.BookedMessages

/-!
Contract: the token against its books, over whole runs.

Owns: that a token opens exactly with the books of its configuration, and that
the token and the books match each other call by call, in both directions.

Does not own: what follows from the books.
-/

namespace DemurrageToken.Properties

open DemurrageToken.Library
open DemurrageToken.Library.System
open DemurrageToken.Library.Handler
open DemurrageToken.Contract
open DemurrageToken.Spec

variable {api : Api} {genesis : Genesis}

/-! ## The opening -/

/-- The listed accounts as holdings. -/
theorem ofLedger_listed {rows : List Cw20Coin} (distinct : (rows.map Cw20Coin.address).Nodup) :
    Holdings.ofLedger ((∅ : Balances).insertMany (listedEntries rows)) =
      fun account => (rows.find? fun row => row.address = account.asStr).map fun row =>
        row.amount.toNat := by
  funext account
  unfold Holdings.ofLedger
  cases found : rows.find? fun row => row.address = account.asStr with
  | none =>
      have unlisted : account ∉ (∅ : Balances).insertMany (listedEntries rows) := by
        rw [mem_insertMany_listedEntries]
        rintro (earlier | ⟨row, listed, same⟩)
        · exact Std.ExtTreeMap.not_mem_empty earlier
        · have differs := List.find?_eq_none.mp found row listed
          exact differs (decide_eq_true same)
      rw [Std.ExtTreeMap.getElem?_eq_none unlisted]
      rfl
  | some row =>
      have listed := List.mem_of_find?_eq_some found
      have same : row.address = account.asStr := by
        simpa using List.find?_some found
      have entered := @getElem?_insertMany_listedEntries _ _ (∅ : Balances) distinct listed
      rw [same] at entered
      rw [entered]
      rfl

theorem eq_of_appoints {mint : Option MinterResponse} {role : Option MinterData}
    (appoints : Appoints api mint role) :
    role = mint.map fun named =>
      { minter := ⟨named.minter⟩, cap := mint.bind MinterResponse.cap } := by
  cases appoints with
  | nobody => rfl
  | minter accepted =>
      obtain ⟨_, rfl⟩ := validates_iff.mp accepted
      rfl

theorem opens_of_returns {response : Response} {storage : Storage}
    (returned : Returns (instantiate api genesis.env genesis.msg) {} response storage) :
    Books.Opens api genesis ∧ Keeps genesis storage (Books.opening genesis) := by
  simp only [instantiate, returns_bind, Item.returns_save, returns_fromResult, returns_checked,
    returns_reject, returns_validateMint, returns_pure, Checked.mul_eq_some, Checked.pow_eq_some,
    and_assoc, exists_and_left, exists_eq_left', exists_const] at returned
  obtain ⟨_, validated, totalSupply, created, accountsCreated, periodDuration, duration, capped,
    spend, power, mint, appoints, _, rfl⟩ := returned
  obtain ⟨distinct, valid, listed, rfl⟩ := returns_createAccounts_iff.mp accountsCreated
  have under := exceeds_eq_false_iff.mp (Bool.eq_false_of_not_eq_true capped)
  constructor
  · exact {
      validated := by
        cases checked : genesis.msg.validate with
        | ok _ => rfl
        | error error =>
            rw [checked] at validated
            cases validated
      decimals := spend_fits_iff.mp (power ▸ spend.isLt)
      distinct := distinct
      accounts := by
        intro row member
        obtain ⟨account, accepted⟩ := valid row member
        exact (validates_iff.mp accepted).1
      fits := listed ▸ totalSupply.isLt
      capped := by
        intro limit cap
        rw [listed]
        exact under limit cap
      minter := by
        intro role named
        rw [Option.mem_def.mp named] at appoints
        cases appoints with
        | minter accepted => exact (validates_iff.mp accepted).1
      duration := duration ▸ periodDuration.isLt }
  · exact {
      token := ⟨_, rfl, rfl, rfl, rfl, listed.symm, by
        rw [eq_of_appoints appoints, Books.opening, Option.map_map]
        rfl⟩
      record := ⟨_, rfl, rfl, rfl, duration.symm, rfl, rfl, rfl, rfl⟩
      holdings := ofLedger_listed distinct
      grants := by
        funext key
        show ((∅ : Allowances)[key]?).map _ = none
        rw [Std.ExtTreeMap.getElem?_empty]
        rfl
      bounded := le_rfl }

theorem returns_of_opens (opens : Books.Opens api genesis) :
    ∃ response storage, Returns (instantiate api genesis.env genesis.msg) {} response storage := by
  have valid : ∀ row ∈ genesis.msg.initialBalances, ∃ account,
      api.addrValidate row.address = .ok account := fun row member =>
    ⟨_, opens.accounts row member⟩
  obtain ⟨totalSupply, created, accountsCreated, supply⟩ :=
    @createAccounts_exists api _ { contractInfo := some ⟨"crates.io:cw20-base", "0.1.0"⟩ }
      opens.distinct valid opens.fits
  obtain ⟨periodDuration, duration⟩ := @Checked.word_exists 64 _ opens.duration
  obtain ⟨spend, power⟩ := @Checked.word_exists 32 _ (spend_fits_iff.mpr opens.decimals)
  obtain ⟨mint, appoints⟩ := @appoints_exists api genesis.msg.mint fun role named =>
    ⟨_, opens.minter role named⟩
  have capped : exceeds totalSupply genesis.msg.getCap = false := by
    rw [exceeds_eq_false_iff, supply]
    exact opens.capped
  exact ⟨_, _, returns_instantiate opens.validated accountsCreated duration capped power appoints⟩

/-! ## The books as a system -/

/-- The books, and the block of the last message. -/
structure BookState where
  books : Books
  block : BlockInfo

/-- The books of the token instantiated by `genesis`: a call that they admit, in a
block that is not earlier, is entered. -/
def bookSystem (api : Api) (genesis : Genesis) : System BookState Call where
  init := fun state =>
    Books.Opens api genesis ∧ state = ⟨Books.opening genesis, genesis.env.block⟩
  step := fun state call next =>
    state.block.time.nanos.toNat ≤ call.env.block.time.nanos.toNat ∧
      state.books.Admits api genesis call.env.block call.info.sender call.msg ∧
      next = ⟨state.books.post api genesis call.env.block call.info.sender call.msg,
        call.env.block⟩

/-- The token and its books match each other. -/
theorem bisimulation_books : Bisimulation (tokenSystem api genesis) (bookSystem api genesis)
    fun chain state => Keeps genesis chain.storage state.books ∧ chain.block = state.block where
  starts := by
    rintro start ⟨⟨response, returned⟩, sameBlock⟩
    obtain ⟨opens, keeps⟩ := opens_of_returns returned
    exact ⟨_, ⟨opens, rfl⟩, keeps, sameBlock⟩
  started := by
    rintro first ⟨opens, rfl⟩
    obtain ⟨response, storage, returned⟩ := returns_of_opens opens
    exact ⟨⟨storage, genesis.env.block⟩, ⟨⟨response, returned⟩, rfl⟩,
      (opens_of_returns returned).2, rfl⟩
  forth := by
    rintro chain call next state ⟨keeps, sameBlock⟩ step
    obtain ⟨admits, kept⟩ := keeps.of_effect (effect_of_step step)
    exact ⟨_, ⟨sameBlock ▸ step.1, admits, rfl⟩, kept, step.2.2⟩
  back := by
    rintro chain call state next ⟨keeps, sameBlock⟩ ⟨later, admits, rfl⟩
    obtain ⟨after, effect⟩ := keeps.effect_exists admits
    refine ⟨⟨after, call.env.block⟩, ⟨sameBlock ▸ later, ?_, rfl⟩, ?_, rfl⟩
    · exact executes_iff_effect.mpr effect
    · exact (keeps.of_effect effect).2

end DemurrageToken.Properties
