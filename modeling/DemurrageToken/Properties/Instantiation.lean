import DemurrageToken.Contract.Replay
import DemurrageToken.Spec.Genesis

/-!
Contract: which configurations can be instantiated.

Owns: the messages that `instantiate` should accept, when it does, and the
demurrage record it then stores.

Does not own: what a contract does after instantiation.
-/

namespace DemurrageToken.Properties

open DemurrageToken.Library
open DemurrageToken.Library.Handler
open DemurrageToken.Contract
open DemurrageToken.Spec

variable {api : Api} {env : Env} {msg : InstantiateMsg}

/-- What the initial balances add up to. -/
def initialSupply (msg : InstantiateMsg) : Nat :=
  (msg.initialBalances.map fun row => row.amount.toNat).sum

/-- A validated configuration: distinct valid addresses with a sum in the width
and under the cap, a valid minter, and a period that fits in seconds. -/
structure Configures (api : Api) (msg : InstantiateMsg) : Prop where
  validated : msg.validate = .ok ()
  distinct : (msg.initialBalances.map Cw20Coin.address).Nodup
  accounts : ∀ row ∈ msg.initialBalances, ∃ account, api.addrValidate row.address = .ok account
  fits : initialSupply msg < 2 ^ 128
  capped : ∀ limit ∈ msg.getCap, initialSupply msg ≤ limit.toNat
  minter : ∀ mint ∈ msg.mint, ∃ minter, api.addrValidate mint.minter = .ok minter
  duration : msg.periodMinutes.toNat * 60 < 2 ^ 64

/-- The demurrage record starts now, with the full modifier and one token as the
least spend of a participant. -/
structure StartsRecord (env : Env) (msg : InstantiateMsg) (current : State) : Prop where
  charged : current.demurrageTimestamp = env.block.time
  started : current.startTimestamp = env.block.time
  period : current.currentPeriod = 0
  modifier : Checked.mul current.demurrageAmount amountScale = some resolutionFactor
  spend : current.minimumParticipantSpend.toNat = 10 ^ msg.decimals.toNat

/-- Instantiation returns and stores the record. -/
def Instantiated (api : Api) (env : Env) (msg : InstantiateMsg) : Prop :=
  ∃ response storage current, Returns (instantiate api env msg) {} response storage ∧
    storage.state = some current ∧ StartsRecord env msg current

/-- The spend is computed in thirty-two bits. -/
theorem spend_fits_iff {decimals : Nat} : 10 ^ decimals < 2 ^ 32 ↔ decimals ≤ 9 := by
  constructor
  · intro fits
    apply Nat.le_of_not_lt
    intro large
    have least : 10 ^ 10 ≤ 10 ^ decimals := Nat.pow_le_pow_right (by decide) large
    omega
  · intro small
    have most : 10 ^ decimals ≤ 10 ^ 9 := Nat.pow_le_pow_right (by decide) small
    omega

/-- A validated configuration can be instantiated exactly when it has at most
nine decimals. -/
theorem instantiated_iff (configures : Configures api msg) :
    Instantiated api env msg ↔ msg.decimals.toNat ≤ 9 := by
  rw [← spend_fits_iff]
  constructor
  · intro instantiated
    rcases instantiated with ⟨_, _, current, _, _, record⟩
    rw [← record.spend]
    exact current.minimumParticipantSpend.isLt
  · intro spendFits
    obtain ⟨totalSupply, created, accountsCreated, supply⟩ :=
      @createAccounts_exists api _ { contractInfo := some ⟨"crates.io:cw20-base", "0.1.0"⟩ }
        configures.distinct configures.accounts configures.fits
    rcases @Checked.word_exists 64 _ configures.duration with ⟨periodDuration, duration⟩
    rcases @Checked.word_exists 32 _ spendFits with ⟨spend, power⟩
    have capped : exceeds totalSupply msg.getCap = false := by
      rw [exceeds_eq_false_iff, supply]
      exact configures.capped
    rcases appoints_exists configures.minter with ⟨mint, appoints⟩
    have returned := @returns_instantiate api env msg _ _ _ _ _ configures.validated
      accountsCreated duration capped power appoints
    have full : Checked.mul (100000000000000000000000 : U128) amountScale =
        some resolutionFactor := Checked.mul_eq_some.mpr (by decide)
    exact ⟨{}, _, _, returned, rfl, rfl, rfl, rfl, full, power.symm⟩

/-! ## The sample configuration -/

theorem sample_configures {decimals : U32} (accepted : decimals.toNat ≤ 18) :
    Configures sampleApi { (sampleGenesis 1000000 none).msg with decimals } where
  validated := by
    show (if decimals.toNat > 18 then _ else _) = _
    rw [if_neg (Nat.not_lt_of_le accepted)]
  distinct := by
    show ["alice"].Nodup
    decide
  accounts := by
    intro row member
    obtain rfl := List.mem_singleton.mp member
    exact ⟨⟨"alice"⟩, by decide⟩
  fits := by
    show [1000000].sum < 2 ^ 128
    decide
  capped := by
    intro limit capped
    cases capped
  minter := by
    intro mint named
    cases named
  duration := by
    show 1 * 60 < 2 ^ 64
    decide

/-- With six decimals the sample can be instantiated. -/
theorem six_decimals_instantiated :
    Instantiated sampleApi (blockAt 0) { (sampleGenesis 1000000 none).msg with decimals := 6 } :=
  (instantiated_iff (sample_configures (by decide))).mpr (by decide)

/-- With ten decimals, which the validation accepts, the spend overflows and
instantiation aborts. -/
theorem ten_decimals_abort :
    Configures sampleApi { (sampleGenesis 1000000 none).msg with decimals := 10 } ∧
      run (instantiate sampleApi (blockAt 0)
        { (sampleGenesis 1000000 none).msg with decimals := 10 }) {} = none ∧
      ¬ Instantiated sampleApi (blockAt 0)
        { (sampleGenesis 1000000 none).msg with decimals := 10 } := by
  have aborts : run (instantiate sampleApi (blockAt 0)
      { (sampleGenesis 1000000 none).msg with decimals := 10 }) {} = none := by decide +kernel
  refine ⟨sample_configures (by decide), aborts, ?_⟩
  intro instantiated
  rcases instantiated with ⟨_, _, _, returned, _⟩
  cases aborts.symm.trans returned

end DemurrageToken.Properties
