import DemurrageToken.Spec.Effects
import DemurrageToken.Spec.Genesis

/-!
Contract: what the messages do to the balances.

Owns: how a redistribution and each movement change the total, which accounts
they can lower or touch at all, and that they only create entries for
validated accounts.

Does not own: the supply in the token record.
-/

namespace DemurrageToken.Spec

open DemurrageToken.Library
open DemurrageToken.Library.Ledger
open DemurrageToken.Contract

/-! ## The payment to the sink -/

/-- The tax on the supply at a modifier, in whole units. -/
def taxOf (supply amount : Nat) : Nat :=
  supply * (fullAmount - amount) / fullAmount

/-- What a redistribution pays: the tax on the whole supply, or nothing without
a token record or a valid sink. -/
def payout (api : Api) (token : Option TokenInfo) (updated : State) : Nat :=
  match token, api.addrValidate updated.sinkAddress with
  | some info, .ok _ => taxOf info.totalSupply.toNat updated.demurrageAmount.toNat
  | _, _ => 0

theorem payout_eq {api : Api} {info : TokenInfo} {updated : State} :
    payout api (some info) updated =
      if (api.addrValidate updated.sinkAddress).isOk then
        taxOf info.totalSupply.toNat updated.demurrageAmount.toNat
      else
        0 := by
  unfold payout
  cases api.addrValidate updated.sinkAddress <;> rfl

theorem payout_eq_zero_iff {api : Api} {info : TokenInfo} {updated : State} :
    payout api (some info) updated = 0 ↔
      ((api.addrValidate updated.sinkAddress).isOk →
        info.totalSupply.toNat * (fullAmount - updated.demurrageAmount.toNat) < fullAmount) := by
  rw [payout_eq]
  split
  · rename_i valid
    rw [taxOf, distribution_eq_zero_iff]
    exact ⟨fun small _ => small, fun small => small valid⟩
  · rename_i invalid
    exact ⟨fun _ valid => absurd valid invalid, fun _ => rfl⟩

/-- The account a redistribution pays, if it pays one. -/
def paidAccounts (api : Api) (token : Option TokenInfo) (updated : State) : Set Addr :=
  {account | token.isSome ∧ api.addrValidate updated.sinkAddress = .ok account}

section Redistributes

variable {api : Api} {token : Option TokenInfo} {updated : State} {funds after : Balances}

theorem Redistributes.total (redistributes : Redistributes api token updated funds after) :
    total after = total funds + payout api token updated := by
  cases redistributes with
  | noToken missing =>
      simp only [payout, missing, Nat.add_zero]
  | noSink present _ invalid =>
      simp only [payout, present, invalid, Nat.add_zero]
  | paid present due valid credits =>
      simp only [payout, present, valid, taxOf]
      rw [credits.total, (distributionOf_eq_some.mp due).2.2]

theorem Redistributes.due {info : TokenInfo}
    (redistributes : Redistributes api token updated funds after) (present : token = some info) :
    ∃ distribution,
      distributionOf info.totalSupply updated.demurrageAmount = some distribution := by
  cases redistributes with
  | noToken missing =>
      rw [missing] at present
      cases present
  | noSink found due _ =>
      obtain rfl := Option.some.inj (found.symm.trans present)
      exact ⟨_, due⟩
  | paid found due _ _ =>
      obtain rfl := Option.some.inj (found.symm.trans present)
      exact ⟨_, due⟩

theorem Redistributes.held_mono (redistributes : Redistributes api token updated funds after)
    (account : Addr) : held funds account ≤ held after account := by
  cases redistributes with
  | noToken _ => exact le_rfl
  | noSink _ _ _ => exact le_rfl
  | paid _ _ _ credits => exact credits.held_mono account

theorem Redistributes.held_other {account : Addr}
    (redistributes : Redistributes api token updated funds after)
    (different : account ≠ ⟨updated.sinkAddress⟩) : held after account = held funds account := by
  cases redistributes with
  | noToken _ => rfl
  | noSink _ _ _ => rfl
  | paid _ _ valid credits =>
      apply credits.held_other
      rw [api.addrValidate_eq valid]
      exact different

theorem Redistributes.within (redistributes : Redistributes api token updated funds after)
    (within : Within funds (Validates api)) : Within after (Validates api) := by
  cases redistributes with
  | noToken _ => exact within
  | noSink _ _ _ => exact within
  | paid _ _ valid credits => exact credits.within within (validates_of_addrValidate valid)

/-- A redistribution as a movement of the ledger. -/
theorem Redistributes.moves (redistributes : Redistributes api token updated funds after) :
    Movement funds (paidAccounts api token updated)
      (Pi.single ⟨updated.sinkAddress⟩ (payout api token updated)) 0 after := by
  cases redistributes with
  | noToken missing =>
      have nobody : paidAccounts api token updated = ∅ := by
        rw [paidAccounts, missing]
        simp
      have nothing : payout api token updated = 0 := by
        simp only [payout, missing]
      rw [nobody, nothing, Pi.single_zero]
      exact .refl funds
  | noSink present _ invalid =>
      have nobody : paidAccounts api token updated = ∅ := by
        rw [paidAccounts, invalid]
        simp
      have nothing : payout api token updated = 0 := by
        simp only [payout, present, invalid]
      rw [nobody, nothing, Pi.single_zero]
      exact .refl funds
  | @paid _ distribution sink _ present due valid credits =>
      have onlySink : paidAccounts api token updated = {sink} := by
        rw [paidAccounts, present, valid]
        ext account
        simp [eq_comm]
      have tax : payout api token updated = distribution.toNat := by
        simp only [payout, present, valid]
        exact (distributionOf_eq_some.mp due).2.2.symm
      rw [onlySink, tax, ← api.addrValidate_eq valid]
      exact credits.moves

end Redistributes

/-! ## The movements out of an account -/

variable {api : Api} {before after : Storage} {owner : Addr} {amount : U128}

theorem Advances.sinkAddress {now : Timestamp} {current updated : State}
    (advances : Advances now current updated) : updated.sinkAddress = current.sinkAddress := by
  rw [advances.kept]

/-- A transfer adds the payout, takes the amount and adds its base value. -/
theorem Transfers.total {now : Timestamp} {recipient : String}
    (transfers : Transfers api now owner recipient amount before after) :
    ∃ updated base, after.state = some updated ∧
      toBaseAmount amount updated.demurrageAmount = some base ∧
      total after.balances + amount.toNat =
        total before.balances + payout api before.tokenInfo updated + base.toNat := by
  obtain ⟨_, _, redistributes, converted, _, debits, credits, rfl⟩ := transfers
  refine ⟨_, _, rfl, converted, ?_⟩
  have paid := redistributes.total
  have taken := debits.total
  have given := credits.total
  dsimp only
  omega

/-- A transfer as a movement of the ledger. -/
theorem Transfers.moves {now : Timestamp} {recipient : String}
    (transfers : Transfers api now owner recipient amount before after) :
    ∃ current updated base, before.state = some current ∧ Advances now current updated ∧
      after.state = some updated ∧ toBaseAmount amount updated.demurrageAmount = some base ∧
      Movement before.balances
        (paidAccounts api before.tokenInfo updated ∪ {owner} ∪ {⟨recipient⟩})
        (Pi.single ⟨updated.sinkAddress⟩ (payout api before.tokenInfo updated) +
          Pi.single ⟨recipient⟩ base.toNat)
        (Pi.single owner amount.toNat) after.balances := by
  obtain ⟨stored, advances, redistributes, converted, valid, debits, credits, rfl⟩ := transfers
  refine ⟨_, _, _, stored, advances, rfl, converted, ?_⟩
  have moved := (redistributes.moves.trans debits.moves).trans credits.moves
  rw [api.addrValidate_eq valid, add_zero, add_zero, zero_add] at moved
  exact moved

theorem Transfers.held_mono {now : Timestamp} {recipient : String} {account : Addr}
    (transfers : Transfers api now owner recipient amount before after)
    (different : account ≠ owner) : held before.balances account ≤ held after.balances account := by
  obtain ⟨_, _, redistributes, _, _, debits, credits, rfl⟩ := transfers
  calc held before.balances account
      ≤ held _ account := redistributes.held_mono account
    _ = held _ account := (debits.held_other different).symm
    _ ≤ held _ account := credits.held_mono account

theorem Transfers.held_owner {now : Timestamp} {recipient : String}
    (transfers : Transfers api now owner recipient amount before after) :
    held before.balances owner ≤ held after.balances owner + amount.toNat := by
  obtain ⟨_, _, redistributes, _, _, debits, credits, rfl⟩ := transfers
  have paid := redistributes.held_mono owner
  have taken := debits.held_self
  have given := credits.held_mono owner
  dsimp only
  omega

theorem Transfers.held_other {now : Timestamp} {recipient : String} {account : Addr}
    (transfers : Transfers api now owner recipient amount before after)
    (notOwner : account ≠ owner) (notRecipient : account ≠ ⟨recipient⟩)
    (notSink : ∀ current ∈ before.state, account ≠ ⟨current.sinkAddress⟩) :
    held after.balances account = held before.balances account := by
  obtain ⟨stored, advances, redistributes, _, valid, debits, credits, rfl⟩ := transfers
  have notPaid := notSink _ stored
  rw [← advances.sinkAddress] at notPaid
  rw [← api.addrValidate_eq valid] at notRecipient
  exact (credits.held_other notRecipient).trans
    ((debits.held_other notOwner).trans (redistributes.held_other notPaid))

/-- Whoever is debited a positive amount has an entry, hence was validated. -/
theorem debited_validates {funds debited : Balances}
    (debits : Debits funds owner amount.toNat debited) (within : Within funds (Validates api))
    (ownerValid : amount = 0 → Validates api owner) : Validates api owner := by
  by_cases zero : amount = 0
  · exact ownerValid zero
  · apply within owner
    apply debits.mem
    exact BitVec.toNat_pos_of_ne_zero zero

theorem Transfers.within {now : Timestamp} {recipient : String}
    (transfers : Transfers api now owner recipient amount before after)
    (within : Within before.balances (Validates api))
    (ownerValid : amount = 0 → Validates api owner) : Within after.balances (Validates api) := by
  obtain ⟨_, _, redistributes, _, valid, debits, credits, rfl⟩ := transfers
  have paid := redistributes.within within
  exact credits.within (debits.within paid (debited_validates debits paid ownerValid))
    (validates_of_addrValidate valid)

theorem Sends.total {contract : String}
    (sends : Sends api owner contract amount before after) :
    total after.balances = total before.balances := by
  obtain ⟨_, debits, credits, rfl⟩ := sends
  have taken := debits.total
  have given := credits.total
  dsimp only
  omega

theorem Sends.held_mono {contract : String} {account : Addr}
    (sends : Sends api owner contract amount before after) (different : account ≠ owner) :
    held before.balances account ≤ held after.balances account := by
  obtain ⟨_, debits, credits, rfl⟩ := sends
  calc held before.balances account
      = held _ account := (debits.held_other different).symm
    _ ≤ held _ account := credits.held_mono account

theorem Sends.held_owner {contract : String}
    (sends : Sends api owner contract amount before after) :
    held before.balances owner ≤ held after.balances owner + amount.toNat := by
  obtain ⟨_, debits, credits, rfl⟩ := sends
  have taken := debits.held_self
  have given := credits.held_mono owner
  dsimp only
  omega

theorem Sends.held_other {contract : String} {account : Addr}
    (sends : Sends api owner contract amount before after) (notOwner : account ≠ owner)
    (notRecipient : account ≠ ⟨contract⟩) :
    held after.balances account = held before.balances account := by
  obtain ⟨valid, debits, credits, rfl⟩ := sends
  rw [← api.addrValidate_eq valid] at notRecipient
  exact (credits.held_other notRecipient).trans (debits.held_other notOwner)

theorem Sends.within {contract : String}
    (sends : Sends api owner contract amount before after)
    (within : Within before.balances (Validates api))
    (ownerValid : amount = 0 → Validates api owner) : Within after.balances (Validates api) := by
  obtain ⟨valid, debits, credits, rfl⟩ := sends
  exact credits.within (debits.within within (debited_validates debits within ownerValid))
    (validates_of_addrValidate valid)

theorem BurnsTokens.total (burns : BurnsTokens owner amount before after) :
    total after.balances + amount.toNat = total before.balances := by
  obtain ⟨debits, _, _, rfl⟩ := burns
  exact debits.total

theorem BurnsTokens.held_other {account : Addr} (burns : BurnsTokens owner amount before after)
    (different : account ≠ owner) :
    held after.balances account = held before.balances account := by
  obtain ⟨debits, _, _, rfl⟩ := burns
  exact debits.held_other different

theorem BurnsTokens.held_owner (burns : BurnsTokens owner amount before after) :
    held before.balances owner = held after.balances owner + amount.toNat := by
  obtain ⟨debits, _, _, rfl⟩ := burns
  exact debits.held_self.symm

theorem BurnsTokens.within (burns : BurnsTokens owner amount before after)
    (within : Within before.balances (Validates api))
    (ownerValid : amount = 0 → Validates api owner) : Within after.balances (Validates api) := by
  obtain ⟨debits, _, _, rfl⟩ := burns
  exact debits.within within (debited_validates debits within ownerValid)

/-! ## All messages -/

/-- The messages that transfer, send, mint or burn tokens. -/
def movesTokens : ExecuteMsg → Bool
  | .increaseAllowance .. | .decreaseAllowance .. | .updateMinter .. | .changeSinkAddress ..
  | .changeTaxLevel .. => false
  | _ => true

/-- The other messages leave the balances as they were. -/
theorem Effect.balances_eq {env : Env} {sender : Addr} {msg : ExecuteMsg}
    (effect : Effect api env sender before after msg) (idle : movesTokens msg = false) :
    after.balances = before.balances := by
  cases effect with
  | increaseAllowance _ _ _ _ _ result => rw [result]
  | decreaseAllowance _ _ _ result => rw [result]
  | updateMinter _ _ _ _ result => rw [result]
  | changeSinkAddress _ result => rw [result]
  | changeTaxLevel _ result => rw [result]
  | _ => cases idle

/-- Every entry a message creates belongs to a validated account. -/
theorem Effect.within {env : Env} {sender : Addr} {msg : ExecuteMsg}
    (effect : Effect api env sender before after msg)
    (within : Within before.balances (Validates api)) :
    Within after.balances (Validates api) := by
  by_cases idle : movesTokens msg = false
  · rw [effect.balances_eq idle]
    exact within
  cases effect with
  | transfer nonzero transfers =>
      exact transfers.within within fun zero => absurd zero nonzero
  | send nonzero sends => exact sends.within within fun zero => absurd zero nonzero
  | burn nonzero burns => exact burns.within within fun zero => absurd zero nonzero
  | transferFrom draws transfers =>
      obtain ⟨valid, _⟩ := draws
      exact transfers.within within fun _ => validates_of_addrValidate valid
  | sendFrom draws sends =>
      obtain ⟨valid, _⟩ := draws
      exact sends.within within fun _ => validates_of_addrValidate valid
  | burnFrom draws burns =>
      obtain ⟨valid, _⟩ := draws
      exact burns.within within fun _ => validates_of_addrValidate valid
  | mint _ _ _ _ _ _ _ _ redistributes _ valid credits result =>
      rw [result]
      exact credits.within (redistributes.within within) (validates_of_addrValidate valid)
  | _ => exact absurd rfl idle

end DemurrageToken.Spec
