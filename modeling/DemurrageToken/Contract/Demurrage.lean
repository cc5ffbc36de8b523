import DemurrageToken.Contract.State

/-!
Contract: the demurrage functions of `contract.rs`.

Owns: the fixed-point constants, the two compounding loops, the period clock,
`change_period` and what it calls.

The `println!` arguments of the source repeat subtractions, products and
quotients that the surrounding code evaluates anyway; they abort exactly when
it does, and are left out.
-/

namespace DemurrageToken.Contract

open DemurrageToken.Library
open DemurrageToken.Library.Handler

/-- `NANO_DIVDER`, 10^17. -/
def nanoDivder : U128 := 100000000000000000

/-- `GROWTH_RESOLUTION_FACTOR`, 10^11. -/
def growthResolutionFactor : U128 := 100000000000

/-- `RESOLUTION_FACTOR`, the product of the two: 10^28. -/
def resolutionFactor : U128 := nanoDivder * growthResolutionFactor

/-- The digits between `demurrage_amount` and `RESOLUTION_FACTOR`. -/
def amountScale : U128 := 100000

/-- The whole minutes from one timestamp to a later one, in whole seconds. -/
def minutesBetween (nowTimestamp target : Timestamp) : Option U64 := do
  let seconds ← Checked.sub nowTimestamp.seconds target.seconds
  pure (seconds / 60)

/-- `demurrage_cycles`. -/
def demurrageCycles (nowTimestamp target : Timestamp) : Option U64 :=
  minutesBetween nowTimestamp target

/-- `get_minutes_delta`. -/
def getMinutesDelta (nowTimestamp lastTimestamp : Timestamp) : Option U64 :=
  minutesBetween nowTimestamp lastTimestamp

/-- `get_period_time_delta`. -/
def getPeriodTimeDelta (startTimestamp : Timestamp) (periodCount periodMinute : U64) :
    Option Timestamp := do
  let seconds ← Checked.mul periodCount periodMinute
  startTimestamp.plusSeconds seconds

/-- `actual_period`, which no handler calls. -/
def actualPeriod (nowTimestamp : Timestamp) (current : State) : Option U128 := do
  let elapsed ← Checked.sub nowTimestamp.seconds current.startTimestamp.seconds
  let periods ← Checked.div elapsed current.periodMinute
  let count ← Checked.add periods 1
  pure (count.setWidth 128)

/-- `to_base_amount`. -/
def toBaseAmount (value demurrageAmount : U128) : Option U128 := do
  let scaled ← Checked.mul value resolutionFactor
  let divisor ← Checked.mul demurrageAmount amountScale
  Checked.div scaled divisor

/-! ## The compounding loops -/

/-- One pass of the loop in `decay_by`. -/
def decayPass (truncatedTaxLevel valueFactor : U128) : Option U128 := do
  let product ← Checked.mul valueFactor truncatedTaxLevel
  Checked.sub valueFactor (product / growthResolutionFactor)

/-- One pass of the loop in `grow_by`. -/
def growPass (truncatedTaxLevel valueFactor : U128) : Option U128 := do
  let product ← Checked.mul valueFactor truncatedTaxLevel
  Checked.add valueFactor (product / growthResolutionFactor)

/-- The shared body of `grow_by` and `decay_by`. The loop runs over `1..period`,
which has one pass fewer than `period`. -/
def compound (pass : U128 → U128 → Option U128) (value taxLevel : U128) (period : U64) :
    Option U128 := do
  let truncatedTaxLevel := taxLevel / nanoDivder
  let valueFactor ←
    Checked.iterate (pass truncatedTaxLevel) (period.toNat - 1) growthResolutionFactor
  let product ← Checked.mul valueFactor value
  pure (product / growthResolutionFactor)

/-- `grow_by`. -/
def growBy (value taxLevel : U128) (period : U64) : Option U128 :=
  compound growPass value taxLevel period

/-- `decay_by`. -/
def decayBy (value taxLevel : U128) (period : U64) : Option U128 :=
  compound decayPass value taxLevel period

/-! ## Applying demurrage -/

/-- The round limit of `apply_demurrage_limited`; zero rounds are no limit. -/
def limitRounds (periodCount rounds : U64) : U64 :=
  if 0 < rounds ∧ rounds < periodCount then rounds else periodCount

/-- `apply_demurrage_limited`, returning its flag and the `state` it mutates.
`plus_seconds` is called for its result, which the source then discards: the
demurrage timestamp stays where it was. -/
def applyDemurrageLimited (nowTimestamp : Timestamp) (current : State) (rounds : U64) :
    TokenHandler (Bool × State) := do
  let elapsed ← checked (getMinutesDelta nowTimestamp current.demurrageTimestamp)
  if elapsed = 0 then
    pure (false, current)
  else
    let periodCount := limitRounds elapsed rounds
    let lastDemurrageAmount ←
      checked (decayBy current.demurrageAmount current.taxLevel periodCount)
    let advance ← checked (Checked.mul periodCount 60)
    let _discarded ← checked (current.demurrageTimestamp.plusSeconds advance)
    let updated := { current with demurrageAmount := lastDemurrageAmount }
    state.save updated
    pure (true, updated)

/-- `apply_demurrage`. -/
def applyDemurrage (nowTimestamp : Timestamp) (current : State) :
    TokenHandler (Bool × State) :=
  applyDemurrageLimited nowTimestamp current 0

/-- The closure that credits an account. -/
def addTo (amount : U128) (balance : Option U128) : TokenHandler U128 :=
  checked (Checked.add (balance.getD 0) amount)

/-- The closure that debits an account. -/
def subtractFrom (amount : U128) (balance : Option U128) : TokenHandler U128 :=
  checkedSub (balance.getD 0) amount

/-- The arithmetic of `get_distribution`. -/
def distributionOf (totalSupply demurrageAmount : U128) : Option U128 := do
  let scaledAmount ← Checked.mul demurrageAmount amountScale
  let untaxed ← Checked.sub resolutionFactor scaledAmount
  let difference ← Checked.mul totalSupply untaxed
  pure (difference / resolutionFactor)

/-- `get_distribution`. -/
def getDistribution (current : State) : TokenHandler U128 := do
  let config ← orThrow (← tokenInfo.mayLoad) .unauthorized
  checked (distributionOf config.totalSupply current.demurrageAmount)

/-- `apply_default_redistribution`. -/
def applyDefaultRedistribution (api : Api) (current : State) (distribution : U128) :
    TokenHandler Response := do
  let sinkAddr ← addrValidate api current.sinkAddress
  let _ ← balances.update sinkAddr (addTo distribution)
  pure { attributes := [("action", "default_redistribution"), ("amount", distribution.text)] }

/-- `change_period`, returning its result and the `state` it mutates. The `?`
on `get_distribution` leaves early with the state already saved; the result of
the redistribution is dropped, whatever it is. -/
def changePeriod (api : Api) (env : Env) (current : State) :
    TokenHandler (Except ContractError Bool × State) := do
  let currentTimestamp := env.block.time
  let (_, current) ← applyDemurrage currentTimestamp current
  let nextPeriod ← checked (Checked.add current.currentPeriod 1)
  let periodTimestamp ← checked
    (getPeriodTimeDelta current.startTimestamp current.currentPeriod current.periodMinute)
  let demurrageCounts ← checked (demurrageCycles currentTimestamp periodTimestamp)
  let _nextDemurrageAmount ← checked
    (if 0 < demurrageCounts then
      growBy current.demurrageAmount current.taxLevel demurrageCounts
    else
      some current.demurrageAmount)
  let current := { current with currentPeriod := nextPeriod }
  state.save current
  match ← attempt (getDistribution current) with
  | .error error => pure (.error error, current)
  | .ok distribution =>
      let _dropped ← attempt (applyDefaultRedistribution api current distribution)
      pure (.ok true, current)

end DemurrageToken.Contract
