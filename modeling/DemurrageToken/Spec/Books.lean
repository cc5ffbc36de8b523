import DemurrageToken.Library.Allowance
import DemurrageToken.Library.Holdings
import DemurrageToken.Spec.Compounding
import DemurrageToken.Spec.Funds

/-!
Contract: the token as bookkeeping in natural numbers.

The books say what the token is for, without its records, its regions of the
storage, its loops over machine words or its errors: who holds what, who may
spend it, and what the modifier makes of an amount. Every operation is total;
beside it stands the condition under which the token takes it, where the widths
of the words appear as bounds.

Owns: the books, their operations, the conditions, and the books that a token
opens with.

Does not own: that the token keeps these books.
-/

namespace DemurrageToken.Spec

open DemurrageToken.Library
open DemurrageToken.Contract

/-- The books of a token. -/
structure Books where
  supply : Nat
  minter : Option Addr
  taxLevel : U128
  sink : String
  modifier : Nat
  periods : Nat
  holdings : Holdings Addr
  grants : Addr × Addr → Option (Allowance.Entry Expiration)

instance (api : Api) (account : Addr) : Decidable (Validates api account) :=
  inferInstanceAs (Decidable (_ = _))

namespace Books

/-! ## Time -/

/-- The whole minutes since instantiation. -/
def minutesSince (genesis : Genesis) (now : Timestamp) : Nat :=
  (now.seconds.toNat - genesis.env.block.time.seconds.toNat) / 60

/-- The start of the present period, in nanoseconds. -/
def periodStart (genesis : Genesis) (books : Books) : Nat :=
  genesis.env.block.time.nanos.toNat +
    books.periods * (genesis.msg.periodMinutes.toNat * 60) * 10 ^ 9

/-- The whole minutes since the start of the present period. -/
def minutesInPeriod (genesis : Genesis) (now : Timestamp) (books : Books) : Nat :=
  (now.seconds.toNat - books.periodStart genesis / 10 ^ 9) / 60

/-! ## The change of the period -/

/-- The modifier decays by the minutes since instantiation, less one, and the
period count advances. -/
def decay (genesis : Genesis) (now : Timestamp) (books : Books) : Books :=
  { books with
    modifier := decayFactor books.taxLevel (minutesSince genesis now - 1) *
      books.modifier / 10 ^ 11
    periods := books.periods + 1 }

/-- The tax on the whole supply at the modifier. -/
def tax (books : Books) : Nat := taxOf books.supply books.modifier

/-- The tax is paid to the sink, if the host knows the sink. -/
def distribute (api : Api) (books : Books) : Books :=
  if Validates api ⟨books.sink⟩ then
    { books with holdings := books.holdings.credit ⟨books.sink⟩ books.tax }
  else
    books

/-- A change of the period. -/
def charge (api : Api) (genesis : Genesis) (now : Timestamp) (books : Books) : Books :=
  (books.decay genesis now).distribute api

/-- The growth that `change_period` computes and does not keep has room. -/
def GrowthFits (genesis : Genesis) (now : Timestamp) (books : Books) : Prop :=
  let minutes := books.minutesInPeriod genesis now
  (minutes ≤ 1 ∨
      (growFactor books.taxLevel (minutes - 2) * taxRate books.taxLevel < 2 ^ 128 ∧
        growFactor books.taxLevel (minutes - 1) < 2 ^ 128)) ∧
    growFactor books.taxLevel (minutes - 1) * (books.decay genesis now).modifier < 2 ^ 128

/-- The record can be advanced at `now`. -/
structure Advanceable (genesis : Genesis) (now : Timestamp) (books : Books) : Prop where
  begun : books.periodStart genesis / 10 ^ 9 ≤ now.seconds.toNat
  representable : books.periodStart genesis < 2 ^ 64
  counted : books.periods + 1 < 2 ^ 64
  taxable : minutesSince genesis now ≤ 1 ∨ taxRate books.taxLevel ≤ 10 ^ 11
  reachable : minutesSince genesis now ≤
    (2 ^ 64 - 1 - genesis.env.block.time.nanos.toNat) / (60 * 10 ^ 9)
  grows : 0 < books.minutesInPeriod genesis now → books.GrowthFits genesis now

/-- The tax can be computed and paid. -/
structure Distributable (api : Api) (books : Books) : Prop where
  computed : books.supply * (10 ^ 28 - books.modifier * 10 ^ 5) < 2 ^ 128
  paid : Validates api ⟨books.sink⟩ →
    books.holdings.balance ⟨books.sink⟩ + books.tax < 2 ^ 128

/-- The period can be changed at `now`. -/
structure Chargeable (api : Api) (genesis : Genesis) (now : Timestamp) (books : Books) :
    Prop where
  advanceable : books.Advanceable genesis now
  distributable : (books.decay genesis now).Distributable api

/-! ## Amounts -/

/-- The base value of an amount at the modifier. -/
def base (books : Books) (amount : Nat) : Nat := amount * fullAmount / books.modifier

/-- The base value can be computed. -/
def Converts (books : Books) (amount : Nat) : Prop :=
  0 < books.modifier ∧ amount * 10 ^ 28 < 2 ^ 128

/-! ## Movements -/

/-- After a change of the period the amount leaves `owner`, and its base value
reaches `recipient`. -/
def transfer (api : Api) (genesis : Genesis) (now : Timestamp) (owner recipient : Addr)
    (amount : Nat) (books : Books) : Books :=
  let charged := books.charge api genesis now
  { charged with
    holdings := (charged.holdings.debit owner amount).credit recipient (charged.base amount) }

structure Transferable (api : Api) (genesis : Genesis) (now : Timestamp)
    (owner recipient : Addr) (amount : Nat) (books : Books) : Prop where
  chargeable : books.Chargeable api genesis now
  converts : (books.charge api genesis now).Converts amount
  valid : Validates api recipient
  covered : amount ≤ (books.charge api genesis now).holdings.balance owner
  fits : ((books.charge api genesis now).holdings.debit owner amount).balance recipient +
    (books.charge api genesis now).base amount < 2 ^ 128

/-- The amount moves from `owner` to `contract` as it is. -/
def send (owner contract : Addr) (amount : Nat) (books : Books) : Books :=
  { books with holdings := (books.holdings.debit owner amount).credit contract amount }

structure Sendable (api : Api) (owner contract : Addr) (amount : Nat) (books : Books) :
    Prop where
  valid : Validates api contract
  covered : amount ≤ books.holdings.balance owner
  fits : (books.holdings.debit owner amount).balance contract + amount < 2 ^ 128

/-- The amount leaves `owner` and the supply. -/
def burn (owner : Addr) (amount : Nat) (books : Books) : Books :=
  { books with
    supply := books.supply - amount
    holdings := books.holdings.debit owner amount }

structure Burnable (owner : Addr) (amount : Nat) (books : Books) : Prop where
  covered : amount ≤ books.holdings.balance owner
  supplied : amount ≤ books.supply

/-- The amount joins the supply. -/
def raise (amount : Nat) (books : Books) : Books :=
  { books with supply := books.supply + amount }

/-- After the supply is raised and the period changed, the base value of the
amount reaches `recipient`. -/
def mint (api : Api) (genesis : Genesis) (now : Timestamp) (recipient : Addr) (amount : Nat)
    (books : Books) : Books :=
  let charged := (books.raise amount).charge api genesis now
  { charged with holdings := charged.holdings.credit recipient (charged.base amount) }

structure Mintable (api : Api) (genesis : Genesis) (now : Timestamp) (sender recipient : Addr)
    (amount : Nat) (books : Books) : Prop where
  nonzero : amount ≠ 0
  authorised : books.minter = some sender
  raised : books.supply + amount < 2 ^ 128
  capped : ∀ limit ∈ genesis.msg.getCap, books.supply + amount ≤ limit.toNat
  chargeable : (books.raise amount).Chargeable api genesis now
  converts : ((books.raise amount).charge api genesis now).Converts amount
  valid : Validates api recipient
  fits : ((books.raise amount).charge api genesis now).holdings.balance recipient +
    ((books.raise amount).charge api genesis now).base amount < 2 ^ 128

/-! ## Allowances -/

/-- The amount is drawn from an allowance. -/
def draw (key : Addr × Addr) (amount : Nat) (books : Books) : Books :=
  { books with
    grants := Function.update books.grants key
      ((books.grants key).map fun entry => entry.apply (.draw amount)) }

structure Drawable (api : Api) (block : BlockInfo) (key : Addr × Addr) (amount : Nat)
    (books : Books) : Prop where
  valid : Validates api key.1
  covered : ∃ entry, books.grants key = some entry ∧ entry.expires.isExpired block = false ∧
    amount ≤ entry.amount

/-- The amount and its base value are granted together. -/
def grant (key : Addr × Addr) (amount : Nat) (expires : Option Expiration) (books : Books) :
    Books :=
  { books with
    grants := Function.update books.grants key (some (((books.grants key).getD default).apply
      (.grant (amount + books.base amount) expires))) }

structure Grantable (api : Api) (key : Addr × Addr) (amount : Nat) (books : Books) : Prop where
  valid : Validates api key.2
  distinct : key.2 ≠ key.1
  converts : books.Converts amount
  fits : ((books.grants key).getD default).amount + (amount + books.base amount) < 2 ^ 128

/-- The amount is taken off an allowance, which goes where nothing is left. -/
def lower (key : Addr × Addr) (amount : Nat) (expires : Option Expiration) (books : Books) :
    Books :=
  { books with
    grants := Function.update books.grants key
      (((books.grants key).filter fun entry => amount < entry.amount).map fun entry =>
        entry.apply (.lower amount expires)) }

structure Lowerable (api : Api) (key : Addr × Addr) (books : Books) : Prop where
  valid : Validates api key.2
  distinct : key.2 ≠ key.1
  present : (books.grants key).isSome

/-! ## The messages -/

/-- What the token asks of a message. -/
def Admits (api : Api) (genesis : Genesis) (block : BlockInfo) (sender : Addr) (books : Books) :
    ExecuteMsg → Prop
  | .transfer recipient amount =>
      amount ≠ 0 ∧
        books.Transferable api genesis block.time sender ⟨recipient⟩ amount.toNat
  | .burn amount => amount ≠ 0 ∧ books.Burnable sender amount.toNat
  | .send contract amount _ => amount ≠ 0 ∧ books.Sendable api sender ⟨contract⟩ amount.toNat
  | .mint recipient amount =>
      books.Mintable api genesis block.time sender ⟨recipient⟩ amount.toNat
  | .increaseAllowance spender amount _ =>
      books.Grantable api (sender, ⟨spender⟩) amount.toNat
  | .decreaseAllowance spender _ _ => books.Lowerable api (sender, ⟨spender⟩)
  | .transferFrom owner recipient amount =>
      books.Drawable api block (⟨owner⟩, sender) amount.toNat ∧
        (books.draw (⟨owner⟩, sender) amount.toNat).Transferable api genesis block.time ⟨owner⟩
          ⟨recipient⟩ amount.toNat
  | .sendFrom owner contract amount _ =>
      books.Drawable api block (⟨owner⟩, sender) amount.toNat ∧
        (books.draw (⟨owner⟩, sender) amount.toNat).Sendable api ⟨owner⟩ ⟨contract⟩ amount.toNat
  | .burnFrom owner amount =>
      books.Drawable api block (⟨owner⟩, sender) amount.toNat ∧
        (books.draw (⟨owner⟩, sender) amount.toNat).Burnable ⟨owner⟩ amount.toNat
  | .updateMinter newMinter => books.minter = some sender ∧ Validates api ⟨newMinter⟩
  | .changeSinkAddress _ => True
  | .changeTaxLevel _ => True

/-- The books after a message. -/
def post (api : Api) (genesis : Genesis) (block : BlockInfo) (sender : Addr) (books : Books) :
    ExecuteMsg → Books
  | .transfer recipient amount =>
      books.transfer api genesis block.time sender ⟨recipient⟩ amount.toNat
  | .burn amount => books.burn sender amount.toNat
  | .send contract amount _ => books.send sender ⟨contract⟩ amount.toNat
  | .mint recipient amount => books.mint api genesis block.time ⟨recipient⟩ amount.toNat
  | .increaseAllowance spender amount expires =>
      books.grant (sender, ⟨spender⟩) amount.toNat expires
  | .decreaseAllowance spender amount expires =>
      books.lower (sender, ⟨spender⟩) amount.toNat expires
  | .transferFrom owner recipient amount =>
      (books.draw (⟨owner⟩, sender) amount.toNat).transfer api genesis block.time ⟨owner⟩
        ⟨recipient⟩ amount.toNat
  | .sendFrom owner contract amount _ =>
      (books.draw (⟨owner⟩, sender) amount.toNat).send ⟨owner⟩ ⟨contract⟩ amount.toNat
  | .burnFrom owner amount =>
      (books.draw (⟨owner⟩, sender) amount.toNat).burn ⟨owner⟩ amount.toNat
  | .updateMinter newMinter => { books with minter := some ⟨newMinter⟩ }
  | .changeSinkAddress address => { books with sink := address }
  | .changeTaxLevel amount => { books with taxLevel := amount }

/-! ## The opening -/

/-- The token can be instantiated. -/
structure Opens (api : Api) (genesis : Genesis) : Prop where
  validated : genesis.msg.validate = .ok ()
  decimals : genesis.msg.decimals.toNat ≤ 9
  distinct : (genesis.msg.initialBalances.map Cw20Coin.address).Nodup
  accounts : ∀ row ∈ genesis.msg.initialBalances, Validates api ⟨row.address⟩
  fits : listedTotal genesis.msg.initialBalances < 2 ^ 128
  capped : ∀ limit ∈ genesis.msg.getCap,
    listedTotal genesis.msg.initialBalances ≤ limit.toNat
  minter : ∀ role ∈ genesis.msg.mint, Validates api ⟨role.minter⟩
  duration : genesis.msg.periodMinutes.toNat * 60 < 2 ^ 64

/-- The books a token opens with: the listed accounts hold what is listed, which
makes the supply, and nothing has decayed. -/
def opening (genesis : Genesis) : Books where
  supply := listedTotal genesis.msg.initialBalances
  minter := genesis.msg.mint.map fun role => ⟨role.minter⟩
  taxLevel := genesis.msg.taxLevelMinute
  sink := genesis.msg.sinkAddress
  modifier := fullAmount
  periods := 0
  holdings := fun account =>
    (genesis.msg.initialBalances.find? fun row => row.address = account.asStr).map fun row =>
      row.amount.toNat
  grants := fun _ => none

end Books

end DemurrageToken.Spec
