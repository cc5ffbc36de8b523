import DemurrageToken.Spec.Books
import DemurrageToken.Spec.Invariants
import DemurrageToken.Spec.Modifier

/-!
Contract: storages that stand for books.

Owns: when a storage keeps given books, and for each part of a message, that the
code takes it exactly under the condition of the books and leaves a storage that
keeps the books after it.

Does not own: whole messages, and runs.
-/

namespace DemurrageToken.Spec

open DemurrageToken.Library
open DemurrageToken.Library.Ledger
open DemurrageToken.Contract

/-! ## The records -/

/-- The token record keeps the supply and the minter, with the cap and the names
of the instantiation. -/
structure TokenOf (genesis : Genesis) (config : TokenInfo) (books : Books) : Prop where
  name : config.name = genesis.msg.name
  symbol : config.symbol = genesis.msg.symbol
  decimals : config.decimals = genesis.msg.decimals
  supply : config.totalSupply.toNat = books.supply
  mint : config.mint = books.minter.map fun minter => { minter, cap := genesis.msg.getCap }

/-- The demurrage record keeps the modifier, the period count and the policy, with
the clock of the instantiation. -/
structure RecordOf (genesis : Genesis) (current : State) (books : Books) : Prop where
  started : current.startTimestamp = genesis.env.block.time
  charged : current.demurrageTimestamp = genesis.env.block.time
  minute : current.periodMinute.toNat = genesis.msg.periodMinutes.toNat * 60
  periods : current.currentPeriod.toNat = books.periods
  modifier : current.demurrageAmount.toNat = books.modifier
  sink : current.sinkAddress = books.sink
  taxLevel : current.taxLevel = books.taxLevel

/-- The allowances as entries in natural numbers. -/
def grantsOf (allowed : Allowances) : Addr × Addr → Option (Allowance.Entry Expiration) :=
  fun key => allowed[key]?.map fun stored => ⟨stored.allowance.toNat, stored.expires⟩

/-- The storage keeps the books. -/
structure Keeps (genesis : Genesis) (storage : Storage) (books : Books) : Prop where
  token : ∃ config, storage.tokenInfo = some config ∧ TokenOf genesis config books
  record : ∃ current, storage.state = some current ∧ RecordOf genesis current books
  holdings : Holdings.ofLedger storage.balances = books.holdings
  grants : grantsOf storage.allowances = books.grants
  bounded : books.modifier ≤ fullAmount

theorem validates_iff {api : Api} {human : String} {account : Addr} :
    api.addrValidate human = .ok account ↔ Validates api ⟨human⟩ ∧ account = ⟨human⟩ := by
  constructor
  · intro valid
    obtain rfl := api.addrValidate_eq valid
    exact ⟨valid, rfl⟩
  · rintro ⟨valid, rfl⟩
    exact valid

variable {genesis : Genesis} {storage : Storage} {books other : Books}

theorem Keeps.tokenOf {config : TokenInfo} (keeps : Keeps genesis storage books)
    (stored : storage.tokenInfo = some config) : TokenOf genesis config books := by
  obtain ⟨_, same, token⟩ := keeps.token
  obtain rfl := Option.some.inj (stored.symm.trans same)
  exact token

theorem Keeps.recordOf {current : State} (keeps : Keeps genesis storage books)
    (stored : storage.state = some current) : RecordOf genesis current books := by
  obtain ⟨_, same, record⟩ := keeps.record
  obtain rfl := Option.some.inj (stored.symm.trans same)
  exact record

/-- A storage keeps one set of books. -/
theorem Keeps.unique (first : Keeps genesis storage books)
    (second : Keeps genesis storage other) : books = other := by
  obtain ⟨config, stored, token⟩ := first.token
  obtain ⟨current, saved, record⟩ := first.record
  have otherToken := second.tokenOf stored
  have otherRecord := second.recordOf saved
  have roles := token.mint.symm.trans otherToken.mint
  have sameMinter : books.minter = other.minter := by
    apply Option.map_injective _ roles
    intro left right same
    exact congrArg MinterData.minter same
  cases books
  cases other
  simp only [Books.mk.injEq]
  exact ⟨token.supply.symm.trans otherToken.supply, sameMinter,
    record.taxLevel.symm.trans otherRecord.taxLevel, record.sink.symm.trans otherRecord.sink,
    record.modifier.symm.trans otherRecord.modifier,
    record.periods.symm.trans otherRecord.periods,
    first.holdings.symm.trans second.holdings, first.grants.symm.trans second.grants⟩

/-! ## The clock -/

section Clock

variable {current updated : State} {now : Timestamp}

/-- The demurrage can be applied at a time that has come, if the tax takes at most
everything, and until the timestamps run out. -/
theorem decayedAmount_exists_iff (bounded : current.demurrageAmount.toNat ≤ fullAmount) :
    (∃ amount, decayedAmount now current 0 = some amount) ↔
      current.demurrageTimestamp.seconds.toNat ≤ now.seconds.toNat ∧
        (elapsedMinutes now current ≤ 1 ∨ taxRate current.taxLevel ≤ 10 ^ 11) ∧
        elapsedMinutes now current ≤ minutesLeft current := by
  constructor
  · rintro ⟨amount, decayed⟩
    have within := decayedAmount_within decayed
    simp only [decayedAmount, limitRounds_zero, Option.bind_eq_bind,
      Option.bind_eq_some_iff] at decayed
    obtain ⟨elapsed, minutes, decayed⟩ := decayed
    obtain ⟨ordered, quotient⟩ := minutesBetween_eq_some.mp minutes
    refine ⟨ordered, ?_, within⟩
    rw [elapsedMinutes, quotient]
    by_cases idle : elapsed = 0
    · rw [idle]
      exact Or.inl (Nat.zero_le 1)
    · rw [if_neg idle] at decayed
      simp only [Option.bind_eq_some_iff] at decayed
      obtain ⟨lowered, fewer, _⟩ := decayed
      exact (decayBy_exists_iff bounded).mp ⟨lowered, fewer⟩
  · rintro ⟨ordered, taxable, within⟩
    have bound := now.seconds.isLt
    obtain ⟨elapsed, quotient⟩ : ∃ elapsed : U64, elapsedMinutes now current = elapsed.toNat := by
      apply Checked.word_exists
      unfold elapsedMinutes
      omega
    have minutes : getMinutesDelta now current.demurrageTimestamp = some elapsed :=
      minutesBetween_eq_some.mpr ⟨ordered, quotient⟩
    rw [quotient] at taxable within
    have reach : elapsed.toNat * (60 * 10 ^ 9) ≤
        2 ^ 64 - 1 - current.demurrageTimestamp.nanos.toNat :=
      (Nat.le_div_iff_mul_le (by decide)).mp within
    simp only [decayedAmount, limitRounds_zero, minutes, Option.bind_eq_bind, Option.bind_some]
    by_cases idle : elapsed = 0
    · rw [if_pos idle]
      exact ⟨_, rfl⟩
    · rw [if_neg idle]
      have started := current.demurrageTimestamp.nanos.isLt
      obtain ⟨amount, fewer⟩ := (decayBy_exists_iff bounded).mpr taxable
      obtain ⟨advance, product⟩ : ∃ advance : U64, elapsed.toNat * 60 = advance.toNat :=
        Checked.word_exists (by omega)
      obtain ⟨moved, sum⟩ : ∃ moved : U64,
          current.demurrageTimestamp.nanos.toNat + advance.toNat * 10 ^ 9 = moved.toNat :=
        Checked.word_exists (by omega)
      have multiplied : Checked.mul elapsed 60 = some advance := Checked.mul_eq_some.mpr product
      have advanced : current.demurrageTimestamp.plusSeconds advance = some ⟨moved⟩ :=
        Timestamp.plusSeconds_eq_some.mpr sum
      refine ⟨amount, ?_⟩
      rw [fewer, Option.bind_some, multiplied, Option.bind_some, advanced]
      rfl

theorem RecordOf.minutes (record : RecordOf genesis current books) :
    elapsedMinutes now current = Books.minutesSince genesis now := by
  unfold elapsedMinutes Books.minutesSince
  rw [record.charged]

theorem RecordOf.decayed (record : RecordOf genesis current books) :
    decayedValue now current = (books.decay genesis now).modifier := by
  unfold decayedValue Books.decay
  rw [record.minutes, record.taxLevel, record.modifier]

theorem RecordOf.periodStart (record : RecordOf genesis current books) :
    current.startTimestamp.nanos.toNat +
      current.currentPeriod.toNat * current.periodMinute.toNat * 10 ^ 9 =
        books.periodStart genesis := by
  rw [record.started, record.periods, record.minute]
  rfl

/-- The record after a period change is that of the decayed books. -/
theorem RecordOf.advanced (record : RecordOf genesis current books)
    (advances : Advances now current updated) :
    RecordOf genesis updated (books.decay genesis now) := by
  have modifier := advances.demurrageAmount_eq.trans record.decayed
  have periods : updated.currentPeriod.toNat = books.periods + 1 := by
    rw [← advances.counted, record.periods]
  rw [advances.kept]
  exact ⟨record.started, record.charged, record.minute, periods, modifier, record.sink,
    record.taxLevel⟩

theorem advances_exists_iff (record : RecordOf genesis current books)
    (bounded : books.modifier ≤ fullAmount) :
    (∃ updated, Advances now current updated) ↔ books.Advanceable genesis now := by
  have currentBounded : current.demurrageAmount.toNat ≤ fullAmount :=
    record.modifier.le.trans bounded
  have startSeconds := genesis.env.block.time.seconds_toNat
  have sinceStart : genesis.env.block.time.seconds.toNat ≤ books.periodStart genesis / 10 ^ 9 := by
    rw [startSeconds, Books.periodStart]
    exact Nat.div_le_div_right (Nat.le_add_right _ _)
  have applies := @decayedAmount_exists_iff current now currentBounded
  rw [record.minutes, record.charged, record.taxLevel, minutesLeft, record.charged] at applies
  constructor
  · rintro ⟨updated, advances⟩
    obtain ⟨_, taxable, reachable⟩ := applies.mp ⟨_, advances.decayed⟩
    obtain ⟨stamp, cycles, stamped, clocked, growth⟩ := advances.clock
    have started := (getPeriodTimeDelta_eq_some.mp stamped).symm.trans record.periodStart
    obtain ⟨begun, quotient⟩ := minutesBetween_eq_some.mp clocked
    rw [stamp.seconds_toNat, started] at begun quotient
    have minutes : books.minutesInPeriod genesis now = cycles.toNat := quotient
    have modifier : updated.demurrageAmount.toNat = (books.decay genesis now).modifier :=
      advances.demurrageAmount_eq.trans record.decayed
    refine ⟨begun, started ▸ stamp.nanos.isLt, ?_, taxable, reachable, ?_⟩
    · rw [← record.periods, advances.counted]
      exact updated.currentPeriod.isLt
    · intro later
      rw [minutes] at later
      have fits := growBy_exists_iff.mp (growth later)
      rw [modifier, record.taxLevel, ← minutes] at fits
      exact fits
  · rintro ⟨begun, representable, counted, taxable, reachable, grows⟩
    obtain ⟨amount, decayed⟩ := applies.mpr ⟨sinceStart.trans begun, taxable, reachable⟩
    have modifier : amount.toNat = (books.decay genesis now).modifier :=
      (decayedAmount_value decayed).trans record.decayed
    rw [← record.periods] at counted
    obtain ⟨periods, next⟩ := Checked.word_exists counted
    obtain ⟨nanos, start⟩ := Checked.word_exists representable
    have stamped : getPeriodTimeDelta current.startTimestamp current.currentPeriod
        current.periodMinute = some ⟨nanos⟩ :=
      getPeriodTimeDelta_eq_some.mpr (record.periodStart.trans start)
    have seconds : (⟨nanos⟩ : Timestamp).seconds.toNat = books.periodStart genesis / 10 ^ 9 := by
      rw [Timestamp.seconds_toNat, start]
    have bound := now.seconds.isLt
    obtain ⟨cycles, quotient⟩ :
        ∃ cycles : U64, books.minutesInPeriod genesis now = cycles.toNat := by
      apply Checked.word_exists
      unfold Books.minutesInPeriod
      omega
    have clocked : demurrageCycles now ⟨nanos⟩ = some cycles := by
      apply minutesBetween_eq_some.mpr
      rw [seconds]
      exact ⟨begun, quotient⟩
    refine ⟨{ current with demurrageAmount := amount, currentPeriod := periods }, decayed, next,
      ⟨⟨nanos⟩, cycles, stamped, clocked, ?_⟩, rfl⟩
    intro later
    have fits := grows (quotient ▸ later)
    rw [Books.GrowthFits, quotient, ← modifier, ← record.taxLevel] at fits
    exact growBy_exists_iff.mpr fits

end Clock

/-! ## The tax -/

section Tax

variable {api : Api} {config : TokenInfo} {updated : State} {funds after : Balances}

theorem Books.distribute_holdings : (books.distribute api).holdings =
    if Validates api ⟨books.sink⟩ then books.holdings.credit ⟨books.sink⟩ books.tax
    else books.holdings := by
  unfold Books.distribute
  split <;> rfl

/-- Only the holdings change. -/
theorem Books.distribute_eq : books.distribute api =
    { books with holdings := (books.distribute api).holdings } := by
  unfold Books.distribute
  split <;> rfl

theorem redistributes_iff (supplied : config.totalSupply.toNat = books.supply)
    (record : RecordOf genesis updated books) (bounded : books.modifier ≤ fullAmount)
    (holdings : Holdings.ofLedger funds = books.holdings) :
    Redistributes api (some config) updated funds after ↔
      books.Distributable api ∧ Holdings.ofLedger after = (books.distribute api).holdings := by
  have computed : ∀ {distribution : U128},
      distributionOf config.totalSupply updated.demurrageAmount = some distribution ↔
        books.supply * (10 ^ 28 - books.modifier * 10 ^ 5) < 2 ^ 128 ∧
          distribution.toNat = books.tax := by
    intro distribution
    rw [distributionOf_eq_some, supplied, record.modifier]
    exact and_iff_right bounded
  rw [Books.distribute_holdings, ← holdings]
  constructor
  · intro redistributes
    cases redistributes with
    | noToken missing => cases missing
    | noSink present due invalid =>
        cases present
        rw [record.sink] at invalid
        have unknown : ¬ Validates api ⟨books.sink⟩ := by
          intro valid
          cases invalid.symm.trans valid
        rw [if_neg unknown]
        exact ⟨⟨(computed.mp due).1, fun valid => absurd valid unknown⟩, rfl⟩
    | paid present due valid credits =>
        cases present
        rw [record.sink] at valid
        obtain ⟨known, rfl⟩ := validates_iff.mp valid
        obtain ⟨fits, amount⟩ := computed.mp due
        rw [amount] at credits
        obtain ⟨room, credited⟩ := Holdings.credits_iff.mp credits
        rw [if_pos known, credited]
        rw [holdings] at room
        exact ⟨⟨fits, fun _ => room⟩, rfl⟩
  · rintro ⟨⟨fits, paid⟩, result⟩
    have below : books.tax < 2 ^ 128 := by
      have part : books.supply * (fullAmount - books.modifier) ≤ fullAmount * books.supply := by
        rw [Nat.mul_comm fullAmount]
        exact Nat.mul_le_mul_left _ (Nat.sub_le _ _)
      exact (Nat.div_le_of_le_mul part).trans_lt (supplied ▸ config.totalSupply.isLt)
    obtain ⟨distribution, amount⟩ := @Checked.word_exists 128 _ below
    have due := computed.mpr ⟨fits, amount.symm⟩
    by_cases known : Validates api ⟨books.sink⟩
    · rw [if_pos known] at result
      refine .paid rfl due (validates_iff.mpr ⟨record.sink ▸ known, rfl⟩) ?_
      rw [record.sink, ← amount]
      apply Holdings.credits_iff.mpr
      rw [holdings]
      rw [holdings] at result
      exact ⟨paid known, result⟩
    · rw [if_neg known] at result
      obtain rfl := Holdings.ofLedger_injective result
      cases invalid : api.addrValidate updated.sinkAddress with
      | error error => exact .noSink rfl due invalid
      | ok sink =>
          rw [record.sink] at invalid
          exact absurd (validates_iff.mp invalid).1 known

end Tax

/-! ## The change of the period -/

section Charge

variable {api : Api} {config : TokenInfo} {current updated : State} {now : Timestamp}
  {funds after : Balances}

theorem TokenOf.congr (token : TokenOf genesis config books)
    (sameSupply : other.supply = books.supply) (sameMinter : other.minter = books.minter) :
    TokenOf genesis config other :=
  ⟨token.name, token.symbol, token.decimals, token.supply.trans sameSupply.symm,
    sameMinter ▸ token.mint⟩

theorem RecordOf.congr (record : RecordOf genesis current books)
    (samePeriods : other.periods = books.periods) (sameModifier : other.modifier = books.modifier)
    (sameSink : other.sink = books.sink) (sameTax : other.taxLevel = books.taxLevel) :
    RecordOf genesis current other :=
  ⟨record.started, record.charged, record.minute, record.periods.trans samePeriods.symm,
    record.modifier.trans sameModifier.symm, record.sink.trans sameSink.symm,
    record.taxLevel.trans sameTax.symm⟩

theorem Books.decay_modifier_le : (books.decay genesis now).modifier ≤ books.modifier := by
  apply Nat.div_le_of_le_mul
  exact Nat.mul_le_mul_right _ (decayFactor_le_one _ _)

/-- What a change of the period leaves of the record and the balances. -/
structure Charged (api : Api) (genesis : Genesis) (now : Timestamp) (books : Books)
    (updated : State) (after : Balances) : Prop where
  record : RecordOf genesis updated (books.charge api genesis now)
  holdings : Holdings.ofLedger after = (books.charge api genesis now).holdings
  bounded : (books.charge api genesis now).modifier ≤ fullAmount

/-- A change of the period leaves the supply, the minter and the grants alone. -/
theorem Books.charge_eq : books.charge api genesis now =
    { books.decay genesis now with holdings := (books.charge api genesis now).holdings } :=
  Books.distribute_eq

theorem Books.charge_supply : (books.charge api genesis now).supply = books.supply := by
  rw [Books.charge_eq]
  rfl

theorem Books.charge_minter : (books.charge api genesis now).minter = books.minter := by
  rw [Books.charge_eq]
  rfl

theorem Books.charge_grants : (books.charge api genesis now).grants = books.grants := by
  rw [Books.charge_eq]
  rfl

theorem charged_of (token : TokenOf genesis config books) (record : RecordOf genesis current books)
    (holdings : Holdings.ofLedger funds = books.holdings) (bounded : books.modifier ≤ fullAmount)
    (advances : Advances now current updated)
    (redistributes : Redistributes api (some config) updated funds after) :
    books.Chargeable api genesis now ∧ Charged api genesis now books updated after := by
  have advanced := record.advanced advances
  have stillBounded : (books.decay genesis now).modifier ≤ fullAmount :=
    Books.decay_modifier_le.trans bounded
  have supplied : config.totalSupply.toNat = (books.decay genesis now).supply := token.supply
  obtain ⟨distributable, result⟩ :=
    (redistributes_iff supplied advanced stillBounded holdings).mp redistributes
  refine ⟨⟨(advances_exists_iff record bounded).mp ⟨updated, advances⟩, distributable⟩, ?_,
    result, ?_⟩
  · rw [Books.charge_eq]
    exact advanced.congr rfl rfl rfl rfl
  · rw [Books.charge_eq]
    exact stillBounded

theorem Books.Chargeable.exists (chargeable : books.Chargeable api genesis now)
    (token : TokenOf genesis config books) (record : RecordOf genesis current books)
    (holdings : Holdings.ofLedger funds = books.holdings) (bounded : books.modifier ≤ fullAmount) :
    ∃ updated after, Advances now current updated ∧
      Redistributes api (some config) updated funds after := by
  obtain ⟨updated, advances⟩ := (advances_exists_iff record bounded).mpr chargeable.advanceable
  have advanced := record.advanced advances
  have stillBounded : (books.decay genesis now).modifier ≤ fullAmount :=
    Books.decay_modifier_le.trans bounded
  have supplied : config.totalSupply.toNat = (books.decay genesis now).supply := token.supply
  have distributable := chargeable.distributable
  have leaves : ∀ after : Balances,
      Holdings.ofLedger after = ((books.decay genesis now).distribute api).holdings →
        Redistributes api (some config) updated funds after := by
    intro after result
    exact (redistributes_iff supplied advanced stillBounded holdings).mpr ⟨distributable, result⟩
  by_cases known : Validates api ⟨books.sink⟩
  · have room := distributable.paid known
    rw [show (books.decay genesis now).holdings = books.holdings from rfl, ← holdings] at room
    obtain ⟨after, credits⟩ := Holdings.credits_exists room
    refine ⟨updated, after, advances, leaves after ?_⟩
    rw [Books.distribute_holdings, (Holdings.credits_iff.mp credits).2, holdings]
    exact (if_pos known).symm
  · refine ⟨updated, funds, advances, leaves funds ?_⟩
    rw [Books.distribute_holdings, holdings]
    exact (if_neg known).symm

end Charge

/-! ## Amounts -/

theorem RecordOf.converts_iff {current : State} {amount : U128}
    (record : RecordOf genesis current books) (bounded : books.modifier ≤ fullAmount) :
    (∃ base, toBaseAmount amount current.demurrageAmount = some base) ↔
      books.Converts amount.toNat := by
  unfold Books.Converts
  simp only [toBaseAmount_eq_some, record.modifier]
  constructor
  · rintro ⟨_, fits, _, nonzero, _⟩
    exact ⟨Nat.pos_of_ne_zero nonzero, fits⟩
  · rintro ⟨positive, fits⟩
    have divisorFits : books.modifier * 10 ^ 5 < 2 ^ 128 :=
      (Nat.mul_le_mul_right _ bounded).trans_lt (by decide)
    obtain ⟨base, quotient⟩ := @Checked.word_exists 128 _
      ((Nat.div_le_self (amount.toNat * 10 ^ 28) (books.modifier * 10 ^ 5)).trans_lt fits)
    exact ⟨base, fits, divisorFits, positive.ne', quotient⟩

theorem RecordOf.base_eq {current : State} {amount base : U128}
    (record : RecordOf genesis current books)
    (converted : toBaseAmount amount current.demurrageAmount = some base) :
    base.toNat = books.base amount.toNat := by
  rw [(toBaseAmount_value converted).2, record.modifier]
  rfl

end DemurrageToken.Spec
