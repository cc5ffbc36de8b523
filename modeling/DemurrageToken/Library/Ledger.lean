import Mathlib

/-!
Contract: ledgers of fixed-width balances.

A ledger maps accounts to machine words; an account without an entry holds
zero. `Debits` and `Credits` say what one update of one account does, in the
ledger's own terms, and every movement of money is a composition of the two.

Owns: what an account holds, the total over all accounts and its reading as a
sum over the (possibly infinite) type of accounts, and how a debit or a credit
moves both.

Does not own: who may debit or credit an account.
-/

namespace DemurrageToken.Library

/-- Balances of `width` bits by account. -/
abbrev Ledger (κ : Type) [Ord κ] (width : Nat) := Std.ExtTreeMap κ (BitVec width)

namespace Ledger

variable {κ : Type} [Ord κ] [Std.TransOrd κ] {width : Nat}

/-- What an account holds; zero without an entry. -/
def held (ledger : Ledger κ width) (account : κ) : Nat :=
  (ledger[account]?.getD 0).toNat

/-- The sum of all balances. -/
def total (ledger : Ledger κ width) : Nat :=
  (ledger.toList.map fun entry => entry.2.toNat).sum

/-- `amount` leaves `account`, which holds at least that much. -/
def Debits (before : Ledger κ width) (account : κ) (amount : Nat)
    (after : Ledger κ width) : Prop :=
  ∃ rest : BitVec width, rest.toNat + amount = held before account ∧
    after = before.insert account rest

/-- `amount` is added to `account`, whose new balance fits the width. -/
def Credits (before : Ledger κ width) (account : κ) (amount : Nat)
    (after : Ledger κ width) : Prop :=
  ∃ sum : BitVec width, held before account + amount = sum.toNat ∧
    after = before.insert account sum

@[simp] theorem held_empty (account : κ) : held (∅ : Ledger κ width) account = 0 := by
  simp [held]

theorem held_eq_zero_of_notMem {ledger : Ledger κ width} {account : κ}
    (outside : account ∉ ledger) : held ledger account = 0 := by
  rw [← Std.ExtTreeMap.isSome_getElem?_iff_mem] at outside
  rw [held, Option.not_isSome_iff_eq_none.mp outside]
  rfl

variable [Std.LawfulEqOrd κ]

@[simp] theorem held_insert_self (ledger : Ledger κ width) (account : κ) (value : BitVec width) :
    held (ledger.insert account value) account = value.toNat := by
  simp [held]

theorem mem_insert_iff {ledger : Ledger κ width} {account other : κ} {value : BitVec width} :
    other ∈ ledger.insert account value ↔ other = account ∨ other ∈ ledger := by
  rw [Std.ExtTreeMap.mem_insert, Std.LawfulEqCmp.compare_eq_iff_eq, eq_comm]

theorem held_insert_other (ledger : Ledger κ width) {account other : κ} (value : BitVec width)
    (different : other ≠ account) :
    held (ledger.insert account value) other = held ledger other := by
  have distinct : ¬ compare account other = .eq := by
    intro equal
    exact different (Std.LawfulEqCmp.eq_of_compare equal).symm
  simp [held, Std.ExtTreeMap.getElem?_insert, distinct]

/-! ## The total is a sum over accounts -/

private theorem toList_value_eq_held {ledger : Ledger κ width} {entry : κ × BitVec width}
    (member : entry ∈ ledger.toList) : entry.2.toNat = held ledger entry.1 := by
  have found := Std.ExtTreeMap.mem_toList_iff_getElem?_eq_some.mp member
  simp [held, found]

/-- The total can be summed over any finite set that has every account with a
nonzero balance. -/
theorem total_eq_sum (ledger : Ledger κ width) (accounts : Finset κ)
    (covers : ∀ account, held ledger account ≠ 0 → account ∈ accounts) :
    total ledger = ∑ account ∈ accounts, held ledger account := by
  classical
  have onKeys : total ledger = (ledger.keys.map (held ledger)).sum := by
    rw [total, ← Std.ExtTreeMap.map_fst_toList_eq_keys, List.map_map]
    congr 1
    exact List.map_congr_left fun entry member => toList_value_eq_held member
  rw [onKeys, ← List.sum_toFinset _ Std.ExtTreeMap.nodup_keys]
  -- Both index sets extend to their union by accounts that hold nothing.
  have onUnion : ∀ part ⊆ ledger.keys.toFinset ∪ accounts,
      (∀ account, account ∉ part → held ledger account = 0) →
      ∑ account ∈ part, held ledger account =
        ∑ account ∈ ledger.keys.toFinset ∪ accounts, held ledger account := by
    intro part inside vanishes
    exact Finset.sum_subset inside fun account _ outside => vanishes account outside
  rw [onUnion _ Finset.subset_union_left, onUnion _ Finset.subset_union_right]
  · intro account outside
    by_contra nonzero
    exact outside (covers account nonzero)
  · intro account outside
    rw [List.mem_toFinset, Std.ExtTreeMap.mem_keys] at outside
    exact held_eq_zero_of_notMem outside

/-- The accounts with a nonzero balance are finitely many. -/
theorem held_support_finite (ledger : Ledger κ width) :
    (Function.support (held ledger)).Finite := by
  apply Set.Finite.subset (List.finite_toSet ledger.keys)
  intro account nonzero
  by_contra outside
  exact nonzero (held_eq_zero_of_notMem fun member =>
    outside (Std.ExtTreeMap.mem_keys.mpr member))

/-- The total is the sum of what every account holds. -/
theorem total_eq_finsum (ledger : Ledger κ width) :
    total ledger = ∑ᶠ account, held ledger account := by
  rw [finsum_eq_sum _ (held_support_finite ledger)]
  apply total_eq_sum
  intro account nonzero
  simpa using nonzero

@[simp] theorem total_empty : total (∅ : Ledger κ width) = 0 := by
  rw [total_eq_sum ∅ ∅ fun account nonzero => absurd (held_empty account) nonzero]
  rfl

/-- Overwriting one balance moves the total by the difference. -/
theorem total_insert (ledger : Ledger κ width) (account : κ) (value : BitVec width) :
    total (ledger.insert account value) + held ledger account =
      total ledger + value.toNat := by
  classical
  let accounts := insert account (held_support_finite ledger).toFinset
  have coversOld : ∀ other, held ledger other ≠ 0 → other ∈ accounts := by
    intro other nonzero
    simp [accounts, nonzero]
  have coversNew : ∀ other, held (ledger.insert account value) other ≠ 0 →
      other ∈ accounts := by
    intro other nonzero
    by_cases same : other = account
    · simp [accounts, same]
    · rw [held_insert_other ledger value same] at nonzero
      exact coversOld other nonzero
  have member : account ∈ accounts := Finset.mem_insert_self _ _
  rw [total_eq_sum _ accounts coversOld, total_eq_sum _ accounts coversNew,
    ← Finset.add_sum_erase _ _ member, ← Finset.add_sum_erase _ _ member,
    held_insert_self]
  have others : ∑ other ∈ accounts.erase account, held (ledger.insert account value) other =
      ∑ other ∈ accounts.erase account, held ledger other := by
    apply Finset.sum_congr rfl
    intro other inErased
    exact held_insert_other ledger value (Finset.ne_of_mem_erase inErased)
  rw [others]
  omega

/-- Entries of distinct accounts that have none yet add up on top of the total. -/
theorem total_insertMany {entries : List (κ × BitVec width)} :
    ∀ {ledger : Ledger κ width}, (entries.map Prod.fst).Nodup →
      (∀ entry ∈ entries, entry.1 ∉ ledger) →
      total (ledger.insertMany entries) =
        total ledger + (entries.map fun entry => entry.2.toNat).sum := by
  induction entries with
  | nil =>
      intro ledger _ _
      rfl
  | cons entry rest inductionHypothesis =>
      intro ledger distinct fresh
      rw [List.map_cons, List.nodup_cons] at distinct
      have unused : entry.1 ∉ ledger := fresh entry List.mem_cons_self
      have stillFresh : ∀ other ∈ rest, other.1 ∉ ledger.insert entry.1 entry.2 := by
        intro other member present
        rcases mem_insert_iff.mp present with same | earlier
        · exact distinct.1 (same ▸ List.mem_map_of_mem member)
        · exact fresh other (List.mem_cons_of_mem _ member) earlier
      have moved := total_insert ledger entry.1 entry.2
      rw [held_eq_zero_of_notMem unused] at moved
      rw [Std.ExtTreeMap.insertMany_cons, inductionHypothesis distinct.2 stillFresh,
        List.map_cons, List.sum_cons]
      omega

/-- Two sums whose terms agree off one index differ by the terms at that index. -/
theorem finsum_add_eq_of_eq_off {ι : Type} {left right : ι → Nat} {index : ι}
    (leftFinite : (Function.support left).Finite) (rightFinite : (Function.support right).Finite)
    (agree : ∀ other, other ≠ index → left other = right other) :
    (∑ᶠ other, left other) + right index = (∑ᶠ other, right other) + left index := by
  classical
  let indices := insert index (leftFinite.toFinset ∪ rightFinite.toFinset)
  have coversLeft : Function.support left ⊆ indices := by
    intro other nonzero
    simp [indices, Function.mem_support.mp nonzero]
  have coversRight : Function.support right ⊆ indices := by
    intro other nonzero
    simp [indices, Function.mem_support.mp nonzero]
  have member : index ∈ indices := Finset.mem_insert_self _ _
  rw [finsum_eq_sum_of_support_subset left coversLeft,
    finsum_eq_sum_of_support_subset right coversRight,
    ← Finset.add_sum_erase _ _ member, ← Finset.add_sum_erase _ _ member]
  have others : ∑ other ∈ indices.erase index, left other =
      ∑ other ∈ indices.erase index, right other := by
    apply Finset.sum_congr rfl
    intro other inErased
    exact agree other (Finset.ne_of_mem_erase inErased)
  rw [others]
  omega

/-! ## Debits and credits -/

variable {before after : Ledger κ width} {account other : κ} {amount : Nat}

theorem Debits.held_self (debits : Debits before account amount after) :
    held after account + amount = held before account := by
  obtain ⟨rest, balance, rfl⟩ := debits
  rw [held_insert_self]
  exact balance

theorem Debits.held_other (debits : Debits before account amount after)
    (different : other ≠ account) : held after other = held before other := by
  obtain ⟨rest, _, rfl⟩ := debits
  exact held_insert_other before rest different

theorem Debits.total (debits : Debits before account amount after) :
    total after + amount = total before := by
  obtain ⟨rest, balance, rfl⟩ := debits
  have moved := total_insert before account rest
  omega

omit [Std.LawfulEqOrd κ] in
/-- A credit can be made exactly when the new amount fits the width. -/
theorem credits_exists_iff :
    (∃ after, Credits before account amount after) ↔ held before account + amount < 2 ^ width := by
  constructor
  · intro found
    obtain ⟨_, sum, balance, _⟩ := found
    rw [balance]
    exact sum.isLt
  · intro room
    exact ⟨_, BitVec.ofNatLT _ room, (BitVec.toNat_ofNatLT ..).symm, rfl⟩

theorem Credits.held_self (credits : Credits before account amount after) :
    held after account = held before account + amount := by
  obtain ⟨sum, balance, rfl⟩ := credits
  rw [held_insert_self]
  exact balance.symm

theorem Credits.held_other (credits : Credits before account amount after)
    (different : other ≠ account) : held after other = held before other := by
  obtain ⟨sum, _, rfl⟩ := credits
  exact held_insert_other before sum different

theorem Credits.held_mono (credits : Credits before account amount after) (other : κ) :
    held before other ≤ held after other := by
  by_cases same : other = account
  · rw [same, credits.held_self]
    omega
  · exact (credits.held_other same).ge

theorem Credits.total (credits : Credits before account amount after) :
    total after = total before + amount := by
  obtain ⟨sum, balance, rfl⟩ := credits
  have moved := total_insert before account sum
  omega

/-! ## Which accounts have an entry -/

/-- Every account with an entry is `valid`. -/
def Within (ledger : Ledger κ width) (valid : κ → Prop) : Prop :=
  ∀ account ∈ ledger, valid account

theorem within_insert {ledger : Ledger κ width} {value : BitVec width} {valid : κ → Prop}
    (within : Within ledger valid) (accountValid : valid account) :
    Within (ledger.insert account value) valid := by
  intro other member
  rcases mem_insert_iff.mp member with rfl | earlier
  · exact accountValid
  · exact within other earlier

theorem Credits.within {valid : κ → Prop} (credits : Credits before account amount after)
    (within : Within before valid) (accountValid : valid account) : Within after valid := by
  obtain ⟨sum, _, rfl⟩ := credits
  exact within_insert within accountValid

theorem Debits.within {valid : κ → Prop} (debits : Debits before account amount after)
    (within : Within before valid) (accountValid : valid account) : Within after valid := by
  obtain ⟨rest, _, rfl⟩ := debits
  exact within_insert within accountValid

omit [Std.LawfulEqOrd κ] in
/-- Only an account with an entry can be debited a positive amount. -/
theorem Debits.mem (debits : Debits before account amount after) (positive : 0 < amount) :
    account ∈ before := by
  by_contra outside
  have nothing := held_eq_zero_of_notMem outside
  obtain ⟨rest, balance, _⟩ := debits
  omega

/-! ## Movements as a whole -/

/-- What several debits and credits do together: each account gains and loses,
and the touched accounts have an entry afterwards. -/
structure Movement (before : Ledger κ width) (touched : Set κ) (gains losses : κ → Nat)
    (after : Ledger κ width) : Prop where
  mem : ∀ account, account ∈ after ↔ account ∈ touched ∨ account ∈ before
  balance : ∀ account,
    held after account + losses account = held before account + gains account

omit [Std.LawfulEqOrd κ] in
theorem Movement.refl (ledger : Ledger κ width) : Movement ledger ∅ 0 0 ledger where
  mem := by simp
  balance := fun _ => rfl

omit [Std.LawfulEqOrd κ] in
theorem Movement.trans {middle : Ledger κ width} {touched later : Set κ}
    {gains losses moreGains moreLosses : κ → Nat}
    (first : Movement before touched gains losses middle)
    (second : Movement middle later moreGains moreLosses after) :
    Movement before (touched ∪ later) (gains + moreGains) (losses + moreLosses) after where
  mem := by
    intro account
    rw [second.mem, first.mem, Set.mem_union]
    tauto
  balance := by
    intro account
    have early := first.balance account
    have late := second.balance account
    simp only [Pi.add_apply]
    omega

theorem Credits.moves [DecidableEq κ] (credits : Credits before account amount after) :
    Movement before {account} (Pi.single account amount) 0 after where
  mem := by
    intro other
    obtain ⟨sum, _, rfl⟩ := credits
    exact mem_insert_iff
  balance := by
    intro other
    by_cases same : other = account
    · subst same
      rw [credits.held_self, Pi.single_eq_same]
      rfl
    · rw [credits.held_other same, Pi.single_eq_of_ne same]
      rfl

theorem Debits.moves [DecidableEq κ] (debits : Debits before account amount after) :
    Movement before {account} 0 (Pi.single account amount) after where
  mem := by
    intro other
    obtain ⟨rest, _, rfl⟩ := debits
    exact mem_insert_iff
  balance := by
    intro other
    by_cases same : other = account
    · subst same
      rw [Pi.single_eq_same]
      exact debits.held_self
    · rw [debits.held_other same, Pi.single_eq_of_ne same]
      rfl

/-- A ledger is its accounts and what they hold. -/
theorem eq_of_held {left right : Ledger κ width}
    (sameAccounts : ∀ account, account ∈ left ↔ account ∈ right)
    (sameHeld : ∀ account, held left account = held right account) : left = right := by
  apply Std.ExtTreeMap.ext_getElem?
  intro account
  have present := sameAccounts account
  have equal := sameHeld account
  rw [← Std.ExtTreeMap.isSome_getElem?_iff_mem, ← Std.ExtTreeMap.isSome_getElem?_iff_mem]
    at present
  unfold held at equal
  cases inLeft : left[account]? with
  | none =>
      rw [inLeft] at present
      exact (Option.not_isSome_iff_eq_none.mp (present.not.mp (by simp))).symm
  | some value =>
      rw [inLeft] at present equal
      obtain ⟨other, inRight⟩ := Option.isSome_iff_exists.mp (present.mp rfl)
      rw [inRight] at equal ⊢
      exact congrArg some (BitVec.eq_of_toNat_eq equal)

/-- Two movements of one ledger that touch the same accounts agree exactly when
every account gains and loses the same. -/
theorem Movement.eq_iff {left right : Ledger κ width} {touched : Set κ}
    {gains losses otherGains otherLosses : κ → Nat}
    (first : Movement before touched gains losses left)
    (second : Movement before touched otherGains otherLosses right) :
    left = right ↔ ∀ account, gains account + otherLosses account =
      otherGains account + losses account := by
  constructor
  · intro same account
    subst same
    have one := first.balance account
    have other := second.balance account
    omega
  · intro agree
    apply eq_of_held
    · intro account
      rw [first.mem, second.mem]
    · intro account
      have one := first.balance account
      have other := second.balance account
      have same := agree account
      omega

end Ledger

end DemurrageToken.Library
