import DemurrageToken.Contract.Allowances

/-!
Contract: what the single storage updates of the handlers do.

Owns: the equivalence of each update the handlers are composed of, in the words
of the ledger where balances are concerned, and the relations for those
that change another region.

Does not own: the order in which a handler makes them.
-/

namespace DemurrageToken.Spec

open DemurrageToken.Library
open DemurrageToken.Library.Handler
open DemurrageToken.Library.Ledger
open DemurrageToken.Contract

theorem returns_addrValidate {api : Api} {human : String} {before after : Storage}
    {addr : Addr} :
    Returns (addrValidate api human) before addr after ↔
      api.addrValidate human = .ok addr ∧ before = after := by
  rw [addrValidate, returns_fromResult]
  cases api.addrValidate human <;> simp [Except.mapError]

theorem settles_addrValidate_error {api : Api} {human : String} {before after : Storage}
    {error : ContractError} :
    Settles (addrValidate api human) before (.error error) after ↔
      (∃ invalid, api.addrValidate human = .error invalid ∧ error = .std invalid) ∧
        before = after := by
  rw [addrValidate, settles_fromResult]
  cases api.addrValidate human <;> simp [Except.mapError, eq_comm]

theorem returns_checkedSub {left right difference : U128} {before after : Storage} :
    Returns (checkedSub left right) before difference after ↔
      difference.toNat + right.toNat = left.toNat ∧ before = after := by
  rw [checkedSub, returns_orThrow, Checked.sub_eq_some]

/-! ## Balances -/

theorem returns_credit {account : Addr} {amount value : U128} {before after : Storage} :
    Returns (balances.update account (addTo amount)) before value after ↔
      held before.balances account + amount.toNat = value.toNat ∧
        { before with balances := before.balances.insert account value } = after := by
  simp only [Map.returns_update, addTo, returns_checked, Checked.add_eq_some]
  constructor
  · intro found
    rcases found with ⟨_, ⟨sum, rfl⟩, rfl⟩
    exact ⟨sum, rfl⟩
  · intro found
    rcases found with ⟨sum, rfl⟩
    exact ⟨before, ⟨sum, rfl⟩, rfl⟩

theorem returns_debit {account : Addr} {amount value : U128} {before after : Storage} :
    Returns (balances.update account (subtractFrom amount)) before value after ↔
      value.toNat + amount.toNat = held before.balances account ∧
        { before with balances := before.balances.insert account value } = after := by
  simp only [Map.returns_update, subtractFrom, returns_checkedSub]
  constructor
  · intro found
    rcases found with ⟨_, ⟨rest, rfl⟩, rfl⟩
    exact ⟨rest, rfl⟩
  · intro found
    rcases found with ⟨rest, rfl⟩
    exact ⟨before, ⟨rest, rfl⟩, rfl⟩

/-- A credit overflows or succeeds; it has no error. -/
theorem not_settles_credit_error {account : Addr} {amount : U128} {before after : Storage}
    {error : ContractError} :
    ¬ Settles (balances.update account (addTo amount)) before (.error error) after := by
  intro failed
  rw [Map.settles_update_error, addTo, settles_checked] at failed
  rcases failed with ⟨⟨_, _, mismatch⟩, _⟩
  cases mismatch

/-! ## The supply -/

/-- `amount` leaves the supply of the token record, which covers it. -/
def Burns (amount : U128) (before after : TokenInfo) : Prop :=
  ∃ totalSupply : U128, totalSupply.toNat + amount.toNat = before.totalSupply.toNat ∧
    after = { before with totalSupply }

theorem returns_burnSupply {amount : U128} {info lowered : TokenInfo} {before after : Storage} :
    Returns (burnSupply amount info) before lowered after ↔
      Burns amount info lowered ∧ before = after := by
  simp only [burnSupply, returns_bind, returns_checkedSub, returns_pure, Burns]
  constructor
  · intro found
    rcases found with ⟨totalSupply, _, ⟨difference, rfl⟩, rfl, rfl⟩
    exact ⟨⟨totalSupply, difference, rfl⟩, rfl⟩
  · intro found
    rcases found with ⟨⟨totalSupply, difference, rfl⟩, rfl⟩
    exact ⟨totalSupply, before, ⟨difference, rfl⟩, rfl, rfl⟩

theorem returns_updateSupply {amount : U128} {lowered : TokenInfo} {before after : Storage} :
    Returns (tokenInfo.update tokenInfoNotFound (burnSupply amount)) before lowered after ↔
      ∃ info, before.tokenInfo = some info ∧ Burns amount info lowered ∧
        { before with tokenInfo := some lowered } = after := by
  simp only [Item.returns_update, returns_burnSupply]
  constructor
  · intro found
    rcases found with ⟨info, _, present, ⟨burns, rfl⟩, rfl⟩
    exact ⟨info, present, burns, rfl⟩
  · intro found
    rcases found with ⟨info, present, burns, rfl⟩
    exact ⟨info, before, present, ⟨burns, rfl⟩, rfl⟩

/-! ## Allowances -/

/-- `amount` is drawn from the entry at `key`: it exists, has not expired at
`block` and covers the amount; it keeps its expiration. -/
def Draws (block : BlockInfo) (key : Addr × Addr) (amount : U128)
    (before after : Allowances) : Prop :=
  ∃ (entry : AllowanceResponse) (allowance : U128), before[key]? = some entry ∧
    entry.expires.isExpired block = false ∧
    allowance.toNat + amount.toNat = entry.allowance.toNat ∧
    after = before.insert key { entry with allowance }

/-- `amount` is added to the entry at `key`; a given expiration replaces the
entry's. -/
def Grants (key : Addr × Addr) (amount : Nat) (expires : Option Expiration)
    (before after : Allowances) : Prop :=
  ∃ allowance : U128, (before[key]?.getD default).allowance.toNat + amount = allowance.toNat ∧
    after = before.insert key
      { allowance, expires := expires.getD (before[key]?.getD default).expires }

/-- `amount` is taken off the entry at `key`, which is removed where nothing
would be left. -/
inductive Lowers (key : Addr × Addr) (amount : U128) (expires : Option Expiration)
    (before : Allowances) : Allowances → Prop where
  | lowered {entry : AllowanceResponse} {allowance : U128}
      (present : before[key]? = some entry)
      (covered : amount.toNat < entry.allowance.toNat)
      (difference : allowance.toNat + amount.toNat = entry.allowance.toNat) :
      Lowers key amount expires before
        (before.insert key { allowance, expires := expires.getD entry.expires })
  | removed {entry : AllowanceResponse}
      (present : before[key]? = some entry)
      (exhausted : entry.allowance.toNat ≤ amount.toNat) :
      Lowers key amount expires before (before.erase key)

theorem returns_deductAllowance {owner spender : Addr} {block : BlockInfo} {amount : U128}
    {before after : Storage} :
    (∃ left, Returns (deductAllowance owner spender block amount) before left after) ↔
      ∃ drawn, Draws block (owner, spender) amount before.allowances drawn ∧
        { before with allowances := drawn } = after := by
  simp only [deductAllowance, Map.returns_update, returns_bind, returns_orThrow,
    returns_reject, returns_checkedSub, returns_pure, Draws]
  constructor
  · rintro ⟨_, _, ⟨entry, _, ⟨present, rfl⟩, _, _, ⟨fresh, rfl⟩, allowance, _,
      ⟨difference, rfl⟩, rfl, rfl⟩, rfl⟩
    exact ⟨_, ⟨entry, allowance, present, Bool.eq_false_of_not_eq_true fresh, difference, rfl⟩,
      rfl⟩
  · intro found
    rcases found with ⟨_, ⟨entry, allowance, present, fresh, difference, rfl⟩, rfl⟩
    exact ⟨_, before, ⟨entry, before, ⟨present, rfl⟩, (), before,
      ⟨by simp [fresh], rfl⟩, allowance, before, ⟨difference, rfl⟩, rfl, rfl⟩,
      rfl⟩

/-- A draw succeeds on an unexpired entry that covers the amount. -/
theorem draws_exists_iff {block : BlockInfo} {key : Addr × Addr} {amount : U128}
    {before : Allowances} :
    (∃ drawn, Draws block key amount before drawn) ↔
      ∃ entry, before[key]? = some entry ∧ entry.expires.isExpired block = false ∧
        amount.toNat ≤ entry.allowance.toNat := by
  constructor
  · intro found
    rcases found with ⟨_, entry, allowance, present, fresh, difference, _⟩
    exact ⟨entry, present, fresh, by omega⟩
  · intro found
    rcases found with ⟨entry, present, fresh, covered⟩
    have bound := entry.allowance.isLt
    obtain ⟨allowance, difference⟩ :
        ∃ allowance : U128, entry.allowance.toNat - amount.toNat = allowance.toNat :=
      Checked.word_exists (by omega)
    exact ⟨_, entry, allowance, present, fresh, by omega, rfl⟩

section OneEntry

variable {block : BlockInfo} {key other : Addr × Addr} {amount : U128}
  {before after : Allowances}

/-- A draw lowers its entry by the amount and keeps the expiration. -/
theorem Draws.entry (draws : Draws block key amount before after) :
    ∃ entry left, before[key]? = some entry ∧ entry.expires.isExpired block = false ∧
      after[key]? = some { entry with allowance := left } ∧
      left.toNat + amount.toNat = entry.allowance.toNat := by
  rcases draws with ⟨entry, left, present, fresh, difference, rfl⟩
  exact ⟨entry, left, present, fresh, Std.ExtTreeMap.getElem?_insert_self, difference⟩

theorem Draws.others (draws : Draws block key amount before after) (different : other ≠ key) :
    after[other]? = before[other]? := by
  rcases draws with ⟨_, _, _, _, _, rfl⟩
  exact getElem?_insert_of_ne different

theorem Grants.others {granted : Nat} {expires : Option Expiration}
    (grants : Grants key granted expires before after) (different : other ≠ key) :
    after[other]? = before[other]? := by
  rcases grants with ⟨_, _, rfl⟩
  exact getElem?_insert_of_ne different

theorem Lowers.others {expires : Option Expiration}
    (lowers : Lowers key amount expires before after) (different : other ≠ key) :
    after[other]? = before[other]? := by
  cases lowers with
  | lowered _ _ _ => exact getElem?_insert_of_ne different
  | removed _ _ => exact getElem?_erase_of_ne different

end OneEntry

end DemurrageToken.Spec
